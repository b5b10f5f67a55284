/-
Relations and hypernyms.

A binary relation is a machine that holds its source in partition 1 and its targets in partition 2;
it is found through the back-links of the source.  A machine's hypernyms are the children of its
partition 0 and the targets of its relation `IS_A`, and what is above those: above a hypernym itself and
above the definition of its name.
-/
import MeaningGraph.Lexicon.Basic
import MeaningGraph.Matcher

namespace MeaningGraph

/-- The name of the relation of membership. -/
def isA : String := "IS_A"

namespace Graph

/-- The targets of a relation from a machine, each once; a stale handle has none. -/
def targetsOf (g : Graph) (source : MachineId) (relation : String) : List MachineId :=
  match g.find? source with
  | none => []
  | some m =>
    let holders := m.parents.filter fun link =>
      link.partition = 1 && g.name? link.parent == some relation
    let targets := holders.flatMap fun link =>
      ((g.find? link.parent).map (·.part 2)).getD []
    targets.foldl (fun seen t => if t ∈ seen then seen else seen ++ [t]) []

end Graph

namespace Lexicon

/-- The targets of a relation from a live machine. -/
def relationTargets (l : Lexicon) (source : MachineId) (relation : String) :
    Except Error (List MachineId) := do
  let _ ← l.graph.get source
  return l.graph.targetsOf source relation

/-- The only target of a relation, if there is any. -/
def relationTarget (l : Lexicon) (source : MachineId) (relation : String) :
    Except Error (Option MachineId) := do
  let m ← l.graph.get source
  match l.graph.targetsOf source relation with
  | [] => return none
  | [target] => return some target
  | many => throw (.ambiguous m.name relation (many.filterMap l.graph.name?))

/-- The machines right above a machine. -/
def above (l : Lexicon) (id : MachineId) : List MachineId :=
  (((l.graph.find? id).map (·.part 0)).getD [] ++ l.graph.targetsOf id isA).filter l.graph.contains

/-- Where the search for hypernyms goes from a machine: to each machine right above it, by way of the
definition of that machine's name. -/
def upward (l : Lexicon) (id : MachineId) : List MachineId :=
  (l.above id).flatMap fun up => ((l.graph.name? up).bind l.static?).toList ++ [up]

def hypernyms (l : Lexicon) (start : MachineId) : List String :=
  (Search.preorder l.upward l.graph.handles [start]).flatMap fun id =>
    (l.above id).filterMap l.graph.name?

/-- The other static names that have the given one among their hypernyms, in order. -/
def isAMembers (l : Lexicon) (name : String) : List String :=
  (l.statics.entries.filter fun e => e.1 ≠ name && (l.hypernyms e.2).contains name).map (·.1)

end Lexicon

/-- The matcher for the members of an enumeration, as they are now. -/
def Matcher.ofEnumeration (l : Lexicon) (name : String) : Matcher :=
  .member (l.isAMembers name)

end MeaningGraph
