/-
Handles of machines.

A handle names a slot of the graph and the generation of its occupant.  Freeing a slot ends the
generation, so a handle that outlives its machine never names another one.
-/
namespace MeaningGraph

/-- The handle of a machine. -/
structure MachineId where
  index : Nat
  generation : Nat
deriving DecidableEq, Repr

namespace MachineId

/-- Handles are ordered by slot, then by generation. -/
def before (a b : MachineId) : Bool :=
  a.index < b.index || (a.index == b.index && a.generation < b.generation)

end MachineId

/-- A back-link: the parent and the partition in which it holds the child. -/
structure Link where
  parent : MachineId
  partition : Nat
deriving DecidableEq, Repr

namespace Link

/-- Back-links are ordered by parent, then by partition. -/
def before (a b : Link) : Bool :=
  a.parent.before b.parent || (a.parent == b.parent && a.partition < b.partition)

end Link

end MeaningGraph
