/-
Patterns in simple form.

The functions of this module build the same patterns as the constructors, less what says nothing:

    sequence   an empty part, a row in a row, two literals side by side, a row of one
    choice     a choice in a choice, a choice of one, a choice of single characters
    repeated   no or one repetition; repetitions of what is always empty beyond the first
    ofSet      a set with one member

A choice between rows that begin alike has their common part in front of it.
-/
import MeaningGraph.Pattern.Width

namespace MeaningGraph.Pattern

/-- One character of the set. -/
def ofSet (s : CharSet) : Pattern :=
  match s.member? with
  | some c => .literal [c]
  | none => .set s

/-- Puts a pattern before a row. -/
def consPart (p : Pattern) (ps : List Pattern) : List Pattern :=
  match p, ps with
  | .empty, ps => ps
  | .literal cs, .literal ds :: ps => .literal (cs ++ ds) :: ps
  | p, ps => p :: ps

/-- The patterns that a part of a row stands for. -/
def parts : Pattern → List Pattern
  | .seq ps => ps
  | p => [p]

/-- The patterns one after the other. -/
def sequence (ps : List Pattern) : Pattern :=
  match (ps.flatMap parts).foldr consPart [] with
  | [] => .empty
  | [p] => p
  | ps => .seq ps

/-- The patterns between which a branch of a choice chooses. -/
def branches : Pattern → List Pattern
  | .alt ps => ps
  | p => [p]

/-- The character of a pattern that is a single one. -/
def char? : Pattern → Option Char
  | .literal [c] => some c
  | _ => none

/-- The set of a pattern that is one. -/
def set? : Pattern → Option CharSet
  | .set s => some s
  | _ => none

/-- The row of a pattern that is one. -/
def seq? : Pattern → Option (List Pattern)
  | .seq ps => some ps
  | _ => none

/-- What each of the patterns has, if all have it. -/
def forAll {α : Type} (f : Pattern → Option α) : List Pattern → Option (List α)
  | [] => some []
  | p :: ps => (f p).bind fun a => (forAll f ps).map (a :: ·)

/-- How many patterns two rows have in common at their beginnings. -/
def commonLength : List Pattern → List Pattern → Nat
  | p :: ps, q :: qs => if p.same q then commonLength ps qs + 1 else 0
  | _, _ => 0

/-- How many patterns the rows have in common at their beginnings. -/
def sharedLength : List (List Pattern) → Nat
  | [] => 0
  | ps :: rows => rows.foldl (fun n qs => min n (commonLength ps qs)) ps.length

/-- A choice between branches that are no choices, whose beginnings are left where they are. -/
def flatChoice (ps : List Pattern) : Pattern :=
  match ps, forAll char? ps, forAll set? ps with
  | [], _, _ => .set .none
  | [p], _, _ => p
  | _, some cs, _ => ofSet (.ofRanges (cs.map fun c => (c.toNat, c.toNat)))
  | _, _, some sets => ofSet (.ofRanges (sets.flatMap CharSet.ranges))
  | ps, _, _ => .alt ps

/-- One of the patterns. -/
def choice (ps : List Pattern) : Pattern :=
  let ps := ps.flatMap branches
  match forAll seq? ps with
  | some (row :: next :: rows) =>
    match sharedLength (row :: next :: rows) with
    | 0 => flatChoice ps
    | n =>
      let rest := (row :: next :: rows).map fun ps => sequence (ps.drop n)
      sequence (row.take n ++ [flatChoice (rest.flatMap branches)])
  | _ => flatChoice ps

/-- The pattern at least `lo` times and, if `hi` is given, at most `hi` times. -/
def repeated (p : Pattern) (lo : Nat) (hi : Option Nat) : Pattern :=
  let emptyOnly := p.most? == some 0
  let lo := if emptyOnly then min lo 1 else lo
  let hi := if emptyOnly then some (min (hi.getD 1) 1) else hi
  match lo, hi with
  | 0, some 0 => .empty
  | 1, some 1 => p
  | lo, hi => .rep p lo hi

end MeaningGraph.Pattern
