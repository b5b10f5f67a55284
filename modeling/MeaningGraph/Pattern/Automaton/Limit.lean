/-
The limit to the size of a pattern's automaton.

The automaton of a pattern is put together from those of its parts.  Each has one state where it begins
and one where it ends; to join two, the end of one leads to the beginning of the other, which takes a
branch more if that end is a state with branches.  The automaton that reads a text backward has the parts
of a row in reverse order, and is limited too.
-/
import MeaningGraph.Pattern.Automaton.Set
import MeaningGraph.Pattern.Automaton.Words
import MeaningGraph.Pattern.Width

namespace MeaningGraph.Pattern

open Automaton (Size)

mutual

/-- How many branches a join to the end of the pattern's automaton takes. -/
def joint (backward : Bool) : Pattern → Nat
  | .rep p lo none => if lo > 0 || p.least?.any (· > 0) then 1 else 0
  | .rep p lo (some hi) => if lo = hi then p.joint backward else 0
  | .group _ p => if backward then p.joint backward else 0
  | .seq ps => if backward then jointOfFirst backward ps else jointOfLast backward ps
  | _ => 0

/-- The branches at the end of the first pattern. -/
def jointOfFirst (backward : Bool) : List Pattern → Nat
  | [] => 0
  | p :: _ => p.joint backward

/-- The branches at the end of the last pattern. -/
def jointOfLast (backward : Bool) : List Pattern → Nat
  | [] => 0
  | [p] => p.joint backward
  | _ :: ps => jointOfLast backward ps

end

/-- The branches at the ends of all patterns of the list. -/
def joints (backward : Bool) (ps : List Pattern) : Nat :=
  ps.foldr (joint backward · + ·) 0

/-- The words of a choice between texts. -/
def words? : List Pattern → Option (List (List Nat))
  | [] => some []
  | .literal cs :: ps => (words? ps).map (Encoding.bytesOf cs :: ·)
  | _ => none

/-- Grows a size by a repetition.  `grow` grows it by one copy of what is repeated, whose end takes
`joint` branches to join; `always` tells that a copy is never empty. -/
def growRepeated? (grow : Size → Option Size) (joint : Nat) (always : Bool) (lo : Nat) (hi : Option Nat)
    (size : Size) : Option Size :=
  match lo, hi with
  | 0, some 1 =>
    (Size.grow? { states := 1 } size).bind fun size =>
      (grow size).bind (Size.grow? { states := 1, branches := 2 + joint })
  | 0, none =>
    if always then
      (Size.grow? { states := 1 } size).bind fun size =>
        (grow size).bind (Size.grow? { branches := 1 + joint })
    else (grow size).bind (Size.grow? { states := 3, branches := 4 + joint })
  | lo, none =>
    (Size.repeated grow lo size).bind (Size.grow? { states := 1, branches := lo * joint + 1 })
  | lo, some hi =>
    if lo = hi then
      (Size.repeated grow lo size).bind (Size.grow? { branches := (lo - 1) * joint })
    else
      let least := if lo = 0 then Size.grow? { states := 1 } size else Size.repeated grow lo size
      least.bind fun size =>
        (Size.grow? { states := 1 } size).bind fun size =>
          (Size.repeated (fun size => (Size.grow? { states := 1, branches := 2 } size).bind grow)
            (hi - lo) size).bind (Size.grow? { branches := hi * joint })

mutual

/-- Grows a size by the automaton of the pattern. -/
def grow? (backward : Bool) : Pattern → Size → Option Size
  | .empty => Size.grow? { states := 1 }
  | .literal cs => Size.grow? { states := (Encoding.bytesOf cs).length }
  | .set s => Automaton.growSet? backward s
  | .look _ => Size.grow? { states := 1 }
  | .rep p lo hi =>
    growRepeated? (p.grow? backward) (p.joint backward) (p.least?.any (· > 0)) lo hi
  | .group _ p =>
    if backward then p.grow? backward
    else fun size =>
      (Size.grow? { states := 1 } size).bind fun size =>
        (p.grow? backward size).bind (Size.grow? { states := 1, branches := p.joint backward })
  | .seq ps => fun size =>
    let joined := joints backward (if backward then ps.tail else ps.dropLast)
    (growRow? backward ps size).bind (Size.grow? { branches := joined })
  | .alt ps =>
    match words? ps with
    | some words => Automaton.growWords? words
    | none => fun size =>
      let joined := ps.length + joints backward ps
      (growChoice? backward 2 ps size).bind (Size.grow? { branches := joined })

/-- Grows a size by the patterns of a row, in the order of reading. -/
def growRow? (backward : Bool) : List Pattern → Size → Option Size
  | [] => some
  | p :: ps => fun size =>
    if backward then (growRow? backward ps size).bind (p.grow? backward)
    else (p.grow? backward size).bind (growRow? backward ps)

/-- Grows a size by the branches of a choice.  The two states that tie them together are taken after so
many of them. -/
def growChoice? (backward : Bool) : Nat → List Pattern → Size → Option Size
  | 0, [] => Size.grow? { states := 2 }
  | 0, p :: ps => fun size =>
    ((Size.grow? { states := 2 } size).bind (p.grow? backward)).bind (growAll? backward ps)
  | _ + 1, [] => some
  | n + 1, p :: ps => fun size => (p.grow? backward size).bind (growChoice? backward n ps)

def growAll? (backward : Bool) : List Pattern → Size → Option Size
  | [] => some
  | p :: ps => fun size => (p.grow? backward size).bind (growAll? backward ps)

end

/-- The size of the automaton that reads forward, if it is within the limit.  Unless the pattern is tied
to the start of the text, the automaton begins with a loop over any bytes. -/
def forwardSize? (p : Pattern) : Option Size :=
  let tied := p.opensWith .textStart
  let entry : Size := if tied then { states := 1 } else { states := 3, ranges := 1, branches := 2 }
  (Size.grow? (entry.add { states := 1 }) {}).bind fun size =>
    (p.grow? false size).bind (Size.grow? { states := 2, branches := p.joint false })

/-- The size of the automaton that reads backward, if it is within the limit. -/
def backwardSize? (p : Pattern) : Option Size :=
  let tied := p.closesWith .textEnd
  let entry : Size := if tied then { states := 1 } else { states := 3, ranges := 1, branches := 2 }
  (Size.grow? entry {}).bind fun size =>
    (p.grow? true size).bind (Size.grow? { states := 1, branches := p.joint true })

/-- The automata of the pattern are within the limit.  The one that reads backward, which is mostly the
larger, comes first. -/
def isWithinLimit (p : Pattern) : Bool :=
  p.backwardSize?.isSome && p.forwardSize?.isSome

end MeaningGraph.Pattern
