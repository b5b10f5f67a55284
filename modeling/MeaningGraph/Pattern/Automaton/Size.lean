/-
The size of an automaton, and the limit to it.

The automaton of a pattern reads bytes.  It is never built: its size alone decides whether the pattern is
accepted, so its states are only counted.
-/
namespace MeaningGraph.Automaton

/-- What an automaton is made of: states, byte ranges on which a state moves on, and branches that lead
on without a byte. -/
structure Size where
  states : Nat := 0
  ranges : Nat := 0
  branches : Nat := 0
deriving DecidableEq, Repr

namespace Size

/-- The largest number of bytes that an automaton may take. -/
def limit : Nat := 10 * 1024 * 1024

def bytes (s : Size) : Nat :=
  32 * s.states + 8 * s.ranges + 4 * s.branches

def add (s t : Size) : Size :=
  ⟨s.states + t.states, s.ranges + t.ranges, s.branches + t.branches⟩

/-- The size together with some more, if it is within the limit. -/
def grow? (more s : Size) : Option Size :=
  let t := s.add more
  if t.bytes ≤ limit then some t else none

theorem bytes_add (s t : Size) : (s.add t).bytes = s.bytes + t.bytes := by
  simp only [bytes, add]
  omega

/-- Grows a size `n` times.  Growth that fails, fails at once. -/
def repeated (grow : Size → Option Size) : Nat → Size → Option Size
  | 0, s => some s
  | n + 1, s =>
    match grow s with
    | some t => repeated grow n t
    | none => none

end Size

end MeaningGraph.Automaton
