/-
Chunk reduction.

A chunk is reduced by chunk rules until none fires: the longest windows first, those of one length from
left to right, the rules of a window in order, and from the top again after every reduction.

    [the, old, train]
      adj_noun (old, train)  ->  [the, train]
      det_noun (the, train)  ->  [train]

A reduction counts only if it puts something else in the place of the window.
-/
import MeaningGraph.Rule.Set

namespace MeaningGraph

/-- A window of a list, with what stands before and after it. -/
structure Window (α : Type) where
  before : List α
  inside : List α
  after : List α
deriving DecidableEq, Repr

namespace Window

variable {α : Type}

def slice (as : List α) (start length : Nat) : Window α :=
  ⟨as.take start, (as.drop start).take length, as.drop (start + length)⟩

def ofLength (as : List α) (length : Nat) : List (Window α) :=
  (List.range (as.length + 1 - length)).map fun start => slice as start length

/-- All windows that are not empty, the longest first. -/
def all (as : List α) : List (Window α) :=
  (List.range as.length).reverse.flatMap fun n => ofLength as (n + 1)

/-- The list with something else inside the window. -/
def splice (w : Window α) (new : List α) : List α :=
  w.before ++ new ++ w.after

end Window

namespace Chunk

variable {ρ : Type} [Rule ρ]

/-- Tries a rule on a sequence: what it puts in its place, if that is anything else. -/
def reduceWith (seq : List MachineId) : EStateM Error (ρ × Lexicon) (Option (List MachineId)) := do
  if ← Rule.checkNow seq then
    match ← Rule.act seq with
    | some new => return if new = seq then none else some new
    | none => return none
  else return none

/-- The chunk after the first reduction in one of the windows. -/
def reduceIn : List (Window MachineId) → RulesM ρ (Option (List MachineId))
  | [] => pure none
  | w :: ws => do
    match ← RulesM.first (reduceWith w.inside) with
    | some new => return some (w.splice new)
    | none => reduceIn ws

/-- Reduces a chunk to the end, by at most `budget` reductions; their number and what is left. -/
def reduce : Nat → List MachineId → RulesM ρ (Nat × List MachineId)
  | 0, chunk => pure (0, chunk)
  | budget + 1, chunk => do
    match ← reduceIn (Window.all chunk) with
    | none => return (0, chunk)
    | some chunk =>
      let (n, chunk) ← reduce budget chunk
      return (n + 1, chunk)

def reduceAll (budget : Nat) : List (List MachineId) → RulesM ρ (Nat × List (List MachineId))
  | [] => pure (0, [])
  | chunk :: chunks => do
    let (n, chunk) ← reduce budget chunk
    let (m, chunks) ← reduceAll budget chunks
    return (n + m, chunk :: chunks)

end Chunk

end MeaningGraph
