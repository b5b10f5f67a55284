/-
What bounds a spreading activation, and what it answers.
-/
import MeaningGraph.MachineId
import MeaningGraph.Message

namespace MeaningGraph

/-- Bounds of an analysis: the longest arrangement that is tried, the iterations allowed after the
first plugin machine, and the iterations allowed in all. -/
structure Options where
  maxArity : Nat := 3
  safetyIterations : Nat := 2
  maxIterations : Nat := 64
deriving DecidableEq, Repr

inductive StopReason where
  /-- Nothing fired and nothing grew. -/
  | noGrowth
  /-- A matrix was satisfied. -/
  | avmSatisfied
  /-- The iterations after the first plugin machine ran out. -/
  | safetyExhausted
  /-- The iteration limit was reached. -/
  | iterationCap
deriving DecidableEq, Repr

/-- The counters of one iteration: machines expanded, semantic rules fired, slots filled, definitions
activated, and the active machines at its end. -/
structure Iteration where
  expanded : Nat
  fired : Nat
  filled : Nat
  activated : Nat
  active : Nat
deriving DecidableEq, Repr

/-- What a run answers: the reduced chunks, the numbers of those that did not become a single
machine, the messages of plugins and then of matrices, and the counters. -/
structure Outcome where
  chunks : List (List MachineId)
  unreduced : List Nat
  messages : List Message
  reductions : Nat
  iterations : List Iteration
  stop : StopReason
deriving DecidableEq, Repr

/-- Every chunk became a single machine. -/
def Outcome.isFullyReduced (o : Outcome) : Bool :=
  o.unreduced.isEmpty

end MeaningGraph
