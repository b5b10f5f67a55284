/-
Releasing machines.

`retain` frees every machine that is not below a root.  The slots are freed in increasing order, so
the highest of them is the first to be reused; the machines that stay lose the back-links to those
that went.
-/
import MeaningGraph.Graph.Walk

namespace MeaningGraph.Graph

/-- The slot after release: kept machines lose back-links to released ones, released slots start
their next generation. -/
def releaseSlot (kept : List MachineId) (i : Nat) (slot : Slot) : Slot :=
  match slot.machine with
  | none => slot
  | some m =>
    if ⟨i, slot.generation⟩ ∈ kept then
      { slot with machine := some (m.keepParents fun link => link.parent ∈ kept) }
    else
      { generation := slot.generation + 1, machine := none }

/-- Frees the machines that are not below a root, and tells how many there were. -/
def retain (g : Graph) (roots : List MachineId) : Nat × Graph :=
  let kept := g.descendants roots
  let freed := g.handles.filter fun id => id ∉ kept
  (freed.length,
    { slots := g.slots.mapIdx (releaseSlot kept)
      free := (freed.map (·.index)).reverse ++ g.free
      live := g.live - freed.length })

end MeaningGraph.Graph
