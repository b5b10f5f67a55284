/-
Copies of whole trees.

One new machine is made for each machine of the tree, in preorder; then the links among the
machines of the tree are drawn among their copies.  Links from parents outside the tree are not copied.
-/
import MeaningGraph.Graph.Walk

namespace MeaningGraph.Graph

/-- Makes a bare copy of each machine: the pairs of machine and copy, and the graph that holds
the copies. -/
def duplicate (g : Graph) : List MachineId → List (MachineId × MachineId) × Graph
  | [] => ([], g)
  | id :: ids =>
    match g.find? id with
    | none => duplicate g ids
    | some m =>
      let (copy, g) := g.create m.name m.control
      let (pairs, g) := duplicate g ids
      ((id, copy) :: pairs, g)

def copyOf? (pairs : List (MachineId × MachineId)) (id : MachineId) : Option MachineId :=
  pairs.lookup id

/-- The machine with its links drawn among the copies. -/
def relabel (pairs : List (MachineId × MachineId)) (m : Machine) : Machine :=
  { m with
    parts := m.parts.map (·.filterMap (copyOf? pairs))
    parents := SortedList.ofList Link.before
      (m.parents.filterMap fun link => (copyOf? pairs link.parent).map (⟨·, link.partition⟩)) }

/-- Draws the links of each copy after those that its machine has in `old`. -/
def drawLinks (old : Graph) (pairs : List (MachineId × MachineId)) (g : Graph) : Graph :=
  pairs.foldl (fun g pair =>
    match old.find? pair.1 with
    | some m => g.update pair.2 fun _ => relabel pairs m
    | none => g) g

/-- Copies the tree below a machine; the copy of the machine itself is answered. -/
def deepCopy (g : Graph) (root : MachineId) : Except Error (MachineId × Graph) := do
  let order ← g.tree root
  let (pairs, g') := g.duplicate order
  match copyOf? pairs root with
  | some copy => return (copy, drawLinks g pairs g')
  | none => throw (.stale root)

end MeaningGraph.Graph
