/-
The size of the automaton of a set of characters.

An ASCII set takes one state that moves on every range, and one to end in.

Any other set is laid out by its sequences of byte ranges, and equal parts of them are shared.  Which
parts are found again depends on a memory with a fixed number of slots: a part that was laid out is
remembered in the slot that its parts determine, and takes the place of another that was there.

    forward    a tree of the sequences, from the leaves up; equal nodes are shared
    backward   a chain for each sequence, from its first byte on; equal beginnings are shared
-/
import Std.Data.HashMap
import MeaningGraph.Pattern.Automaton.Size
import MeaningGraph.Pattern.Encoding

namespace MeaningGraph.Automaton

open Encoding (Range)

/-! ## The memory of parts -/

/-- The slot of a part given by numbers, of so many. -/
def slotOf (slots : Nat) (part : List Nat) : Nat :=
  let code : UInt64 := part.foldl (fun h n => (h ^^^ n.toUInt64) * 1099511628211) 14695981039346656037
  code.toNat % slots

/-- The size reached so far, and in each slot the part remembered there with its state. -/
structure Layout where
  size : Size
  memory : Std.HashMap Nat (List Nat × Nat)

namespace Layout

/-- Looks up a part; one that is not remembered takes a state with so many ranges. -/
def place? (slots : Nat) (part : List Nat) (ranges : Nat) (l : Layout) : Option (Nat × Layout) :=
  let slot := slotOf slots part
  match l.memory[slot]? with
  | some (known, state) =>
    if known = part then some (state, l) else place slot
  | none => place slot
where
  /-- Takes a new state for the part. -/
  place (slot : Nat) : Option (Nat × Layout) :=
    (Size.grow? { states := 1, ranges } l.size).map fun size =>
      (l.size.states, ⟨size, l.memory.insert slot (part, l.size.states)⟩)

end Layout

/-! ## Forward -/

/-- The sequences by their first range, those side by side with the same one together. -/
def groupByFirst : List (List Range) → List (Range × List (List Range))
  | [] => []
  | [] :: rest => groupByFirst rest
  | (r :: tail) :: rest =>
    match groupByFirst rest with
    | (s, tails) :: groups =>
      if s = r then (r, tail :: tails) :: groups else (r, [tail]) :: (s, tails) :: groups
    | [] => [(r, [tail])]

/-- Lays out the node from which the sequences lead to the target.  The first number bounds the length
of a sequence. -/
def node? : Nat → Nat → List (List Range) → Layout → Option (Nat × Layout)
  | 0, target, _, l => some (target, l)
  | depth + 1, target, sequences, l =>
    if sequences.all List.isEmpty then some (target, l)
    else do
      let (part, count, l) ← (groupByFirst sequences).foldlM
        (fun (part, count, l) (range, tails) => do
          let (next, l) ← node? depth target tails l
          return (next :: range.2 :: range.1 :: part, count + 1, l))
        ([], 0, l)
      l.place? 10000 part.reverse count

def forwardTree (sequences : List (List Range)) (size : Size) : Option Size := do
  let target := size.states
  let size ← Size.grow? { states := 1 } size
  let (_, l) ← node? 5 target sequences ⟨size, ∅⟩
  return l.size

/-! ## Backward -/

/-- Lays out one sequence backward, from the state where it ends, and returns where it begins. -/
def chain? (start : Nat) (sequence : List Range) (l : Layout) : Option (Nat × Layout) :=
  sequence.foldlM (fun (state, l) range => l.place? 1000 [state, range.1, range.2] 0) (start, l)

def backwardChains (sequences : List (List Range)) (size : Size) : Option Size := do
  let start := size.states + 1
  let size ← Size.grow? { states := 2 } size
  let l ← sequences.foldlM
    (fun l sequence => do
      let (_, l) ← chain? start sequence l
      let size ← Size.grow? { branches := 1 } l.size
      return { l with size })
    (⟨size, ∅⟩ : Layout)
  return l.size

/-- The size with the automaton of a set added. -/
def growSet? (backward : Bool) (s : CharSet) (size : Size) : Option Size :=
  if s.within 0x7F then Size.grow? { states := 2, ranges := s.ranges.length } size
  else if backward then backwardChains (Encoding.sequences s) size
  else forwardTree (Encoding.sequences s) size

end MeaningGraph.Automaton
