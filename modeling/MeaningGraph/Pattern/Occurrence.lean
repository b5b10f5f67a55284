/-
The search for a pattern in a text.

A pattern relates the position where a match starts to the positions where it can end.  The search
carries whole sets of positions through the pattern, so it never goes back:

    seq p q       the ends of p are the starts of q
    alt p q       the ends of p and those of q
    rep p lo hi   lo times in turn, and then the ends of each further round

A set of positions is a number whose bit `i` says whether position `i` is in it.  So a text is passed by
a mask and a shift, and a name of some thousand characters costs little more than a short one.

A text of length `n` has `n + 1` positions and a match never goes backwards, so more than `n + 1`
rounds of a repetition reach nothing new: the rounds are cut there.

A loop without a bound remembers where it was entered, and passes on only what is new.  So loops in
loops cost no more than their number, each of them being entered at most once at each position.
-/
import MeaningGraph.Pattern.Build

namespace MeaningGraph

/-- A set of positions of a text. -/
abbrev Positions := Nat

namespace Positions

/-- The positions that pass the test, after those already found.  The test gets the character before a
position, if any, and the text after it; position `i` is the first one. -/
def collect (test : Option Char → List Char → Bool) (i : Nat) (before : Option Char)
    (found : Positions) : List Char → Positions
  | [] => if test before [] then found ||| 1 <<< i else found
  | c :: cs =>
    collect test (i + 1) (some c) (if test before (c :: cs) then found ||| 1 <<< i else found) cs

/-- The positions of a text that pass the test. -/
def whereIn (text : List Char) (test : Option Char → List Char → Bool) : Positions :=
  collect test 0 none 0 text

def below (n : Nat) : Positions :=
  (1 <<< n) - 1

/-- The positions of the first set that are not in the second. -/
def without (s t : Positions) : Positions :=
  (s ||| t) ^^^ t

/-- Applies `f` the given number of times, or until it changes nothing. -/
def times (f : Positions → Positions) : Nat → Positions → Positions
  | 0, s => s
  | n + 1, s =>
    let t := f s
    if t = s then s else times f n t

/-- The positions reached from the frontier in the given number of rounds or fewer, together with those
known before. -/
def spread (f : Positions → Positions) : Nat → Positions → Positions → Positions
  | 0, _, known => known
  | n + 1, frontier, known =>
    let fresh := without (f frontier) known
    if fresh = 0 then known else spread f n fresh (known ||| fresh)

end Positions

/-- What a pattern does to positions of one text. -/
inductive Moves where
  /-- From the marked positions so many positions on. -/
  | pass (marked : Positions) (width : Nat)
  /-- Exactly so many times. -/
  | times (m : Moves) (count : Nat)
  /-- So many times or fewer. -/
  | upTo (m : Moves) (count : Nat)
  /-- Once or more often; no position is reached in more rounds than the count. -/
  | loop (m : Moves) (count : Nat)
  | seq (ms : List Moves)
  | alt (ms : List Moves)
deriving Repr

/-- Where the loops of some moves have been entered. -/
inductive Trace where
  | none
  | loop (entered : Positions) (inside : Trace)
  | parts (traces : List Trace)

namespace Trace

/-- The positions where a loop was entered. -/
def entered : Trace → Positions
  | .loop s _ => s
  | _ => 0

/-- What happened inside a loop. -/
def inside : Trace → Trace
  | .loop _ t => t
  | _ => .none

/-- What happened in the first part. -/
def first : Trace → Trace
  | .parts (t :: _) => t
  | _ => .none

/-- What happened in the parts after the first. -/
def rest : Trace → Trace
  | .parts (_ :: ts) => .parts ts
  | _ => .none

/-- Puts what happened in a part before what happened in those after it. -/
def cons (t rest : Trace) : Trace :=
  match rest with
  | .parts ts => .parts (t :: ts)
  | _ => .parts [t]

end Trace

namespace Moves

/-- Makes rounds of a loop.  `fresh` are the positions where it is entered for the first time, and `ends`
the positions reached so far. -/
def rounds (round : Trace → Positions → Positions × Trace) :
    Nat → Positions → Trace → Positions → Positions → Positions × Trace
  | 0, entered, inside, _, ends => (ends, .loop entered inside)
  | n + 1, entered, inside, fresh, ends =>
    if fresh = 0 then (ends, .loop entered inside)
    else
      let entered := entered ||| fresh
      let (next, inside) := round inside fresh
      rounds round n entered inside (next.without entered) (ends ||| next)

mutual

/-- The positions where the moves from the given ones can end, but for some that were ends before, and
the trace afterwards. -/
def run : Moves → Trace → Positions → Positions × Trace
  | .pass marked width => fun t s => ((s &&& marked) <<< width, t)
  | .times m count => fun t s => (Positions.times (fun s => (run m .none s).1) count s, t)
  | .upTo m count => fun t s => (Positions.spread (fun s => (run m .none s).1) count s s, t)
  | .loop m count => fun t s => rounds (run m) count t.entered t.inside (s.without t.entered) 0
  | .seq ms => runInTurn ms
  | .alt ms => runEach ms

/-- As `run`, of moves made one after the other. -/
def runInTurn : List Moves → Trace → Positions → Positions × Trace
  | [] => fun _ s => (s, .none)
  | m :: ms => fun t s =>
    if s = 0 then (0, t)
    else
      let (s, first) := run m t.first s
      let (s, rest) := runInTurn ms t.rest s
      (s, .cons first rest)

/-- As `run`, of a choice between moves. -/
def runEach : List Moves → Trace → Positions → Positions × Trace
  | [] => fun _ _ => (0, .none)
  | m :: ms => fun t s =>
    let (ends, first) := run m t.first s
    let (others, rest) := runEach ms t.rest s
    (ends ||| others, .cons first rest)

end

/-- The positions where the moves from the given ones can end. -/
def image (m : Moves) (s : Positions) : Positions :=
  (m.run .none s).1

end Moves

namespace Pattern

mutual

/-- The moves that the pattern makes in a text. -/
def moves (text : List Char) : Pattern → Moves
  | .empty => .seq []
  | .literal cs => .pass (.whereIn text fun _ rest => cs.isPrefixOf rest) cs.length
  | .set s => .pass (.whereIn text fun _ rest => rest.head?.any s.contains) 1
  | .look l => .pass (.whereIn text fun before rest => l.holds before rest.head?) 0
  | .rep p lo hi =>
    let m := p.moves text
    let most := text.length + 1
    match lo, hi with
    | 0, none => .alt [.seq [], .loop m most]
    | lo + 1, none => .seq [.times m (min lo most), .loop m most]
    | 0, some 1 => .alt [.seq [], m]
    | lo, some hi => .seq [.times m (min lo most), .upTo m (min (hi - lo) most)]
  | .group _ p => p.moves text
  | .seq ps => .seq (movesOfEach text ps)
  | .alt ps => .alt (movesOfEach text ps)

def movesOfEach (text : List Char) : List Pattern → List Moves
  | [] => []
  | p :: ps => p.moves text :: movesOfEach text ps

end

/-- Some part of the text matches. -/
def occursIn (p : Pattern) (text : String) : Bool :=
  let cs := text.toList
  (p.moves cs).image (.below (cs.length + 1)) != 0

end Pattern

end MeaningGraph
