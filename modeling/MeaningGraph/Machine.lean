/-
Machines, the nodes of the graph.

A machine has a name, numbered partitions of children, an optional control, and the back-links to the
machines that hold it.  Partition 0 holds the hypernyms, the others hold arguments.
-/
import MeaningGraph.Control
import MeaningGraph.SortedList

namespace MeaningGraph

/-- A node of the graph.  The back-links are kept in order. -/
structure Machine where
  name : String
  control : Option Control := none
  parts : List (List MachineId) := [[]]
  parents : List Link := []
deriving DecidableEq, Repr

namespace Machine

/-- The children in one partition; a partition that does not exist has none. -/
def part (m : Machine) (p : Nat) : List MachineId :=
  m.parts.getD p []

/-- All children, partition by partition, as often as they occur. -/
def links (m : Machine) : List MachineId :=
  m.parts.flatten

/-- The machines that hold this one, by handle. -/
def parentIds (m : Machine) : List MachineId :=
  m.parents.map (·.parent)

/-- Empty partitions added until there are at least `n`. -/
def padded (n : Nat) (parts : List (List MachineId)) : List (List MachineId) :=
  parts ++ List.replicate (n - parts.length) []

/-- Puts a child at the end of a partition. -/
def addChild (child : MachineId) (p : Nat) (m : Machine) : Machine :=
  { m with parts := (padded (p + 1) m.parts).modify p (· ++ [child]) }

def dropChild (child : MachineId) (p : Nat) (m : Machine) : Machine :=
  { m with parts := m.parts.modify p (·.erase child) }

def dropChildEverywhere (child : MachineId) (m : Machine) : Machine :=
  { m with parts := m.parts.map (·.erase child) }

def addParent (link : Link) (m : Machine) : Machine :=
  { m with parents := SortedList.insert Link.before link m.parents }

def keepParents (keep : Link → Bool) (m : Machine) : Machine :=
  { m with parents := m.parents.filter keep }

end Machine

end MeaningGraph
