/-
Walks through the graph.

    tree        down the child links, in preorder
    descendants what the trees of several roots hold
    connected   along links in both directions, around a set of blocked machines

All three are depth-first searches among live machines; a stale handle leads nowhere.
-/
import MeaningGraph.Graph.Basic
import MeaningGraph.Search

namespace MeaningGraph.Graph

/-- The children that a machine links to; none for a stale handle. -/
def linksOf (g : Graph) (id : MachineId) : List MachineId :=
  match g.find? id with
  | some m => m.links
  | none => []

/-- The machines one link away, in either direction. -/
def neighbours (g : Graph) (id : MachineId) : List MachineId :=
  match g.find? id with
  | some m => m.links ++ m.parentIds
  | none => []

/-- The machines below the roots, the roots included, in preorder. -/
def descendants (g : Graph) (roots : List MachineId) : List MachineId :=
  Search.preorder g.linksOf g.handles roots

/-- The machines below a live machine, itself first, in preorder. -/
def tree (g : Graph) (root : MachineId) : Except Error (List MachineId) := do
  let _ ← g.get root
  return g.descendants [root]

/-- The machines joined to a root by links in either direction, without entering `blocked`. -/
def connected (g : Graph) (roots blocked : List MachineId) : List MachineId :=
  Search.preorder g.neighbours (g.handles.filter fun id => id ∉ blocked) roots

end MeaningGraph.Graph
