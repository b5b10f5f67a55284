/-
Folding one machine into another.

`fold keep merge` hands the children of `merge` over to `keep`, then the places that `merge` has in
other machines.  A machine that holds itself comes to hold `keep` in `keep`; a link that is there
already is not doubled.
-/
import MeaningGraph.Graph.Basic

namespace MeaningGraph.Graph

/-- The links of a machine to its children, with the partition of each. -/
def numberedLinks (m : Machine) : List (Nat × MachineId) :=
  m.parts.zipIdx.flatMap fun (part, p) => part.map (p, ·)

def handOverChild (keep merge : MachineId) (g : Graph) (p : Nat) (child : MachineId) :
    Except Error Graph := do
  let g ← g.remove merge child p
  g.append keep (if child = merge then keep else child) p

def handOverPlace (keep merge : MachineId) (g : Graph) (link : Link) : Except Error Graph := do
  let g ← g.remove link.parent merge link.partition
  g.append link.parent keep link.partition

/-- Hands the children and then the places of `merge` over to `keep`. -/
def fold (g : Graph) (keep merge : MachineId) : Except Error Graph := do
  let _ ← g.get keep
  let m ← g.get merge
  let g ← (numberedLinks m).foldlM (fun g link => handOverChild keep merge g link.1 link.2) g
  let m ← g.get merge
  m.parents.foldlM (handOverPlace keep merge) g

end MeaningGraph.Graph
