/-
Growing the working set from definitions.

`expand` links an active machine to what its definition links to.  A child of the definition is
represented by the first active instance of its name; failing that by a child of that name which the
machine already has in the same partition; failing that by a copy of the child's tree.

`activate` makes an instance of every definition whose arguments, the children of partitions 1 and
up, are all active by name.
-/
import MeaningGraph.Lexicon.Basic
import MeaningGraph.Graph.Copy
import MeaningGraph.Graph.Fold

namespace MeaningGraph.Lexicon

/-- The first of the machines that has the name; all before it have to be live. -/
def firstNamed (l : Lexicon) (name : String) : List MachineId → Except Error (Option MachineId)
  | [] => .ok none
  | id :: ids => do
    let other ← l.graph.name id
    if other = name then return some id else firstNamed l name ids

/-- A child of that name which the machine holds in the partition. -/
def childNamed (l : Lexicon) (id : MachineId) (p : Nat) (name : String) :
    Except Error (Option MachineId) := do
  let m ← l.graph.get id
  l.firstNamed name (m.part p)

/-- Links a machine to the representative of one child of its definition, and answers the
representative if it was registered for that. -/
def represent (id : MachineId) (p : Nat) (source : MachineId) : LexiconM (Option MachineId) := do
  let name ← ask (·.graph.name source)
  match (← get).firstInstance? name with
  | some target =>
    changeGraph (·.append id target p)
    return none
  | none =>
    let target ← match ← ask (·.childNamed id p name) with
      | some child => pure child
      | none => grow (·.deepCopy source)
    addActive [target]
    changeGraph (·.append id target p)
    return some target

/-- Links a machine to the representatives of numbered children of its definition. -/
def representAll (id : MachineId) : List (Nat × MachineId) → LexiconM (List MachineId)
  | [] => pure []
  | (p, source) :: rest => do
    let new ← represent id p source
    let more ← representAll id rest
    return new.toList ++ more

/-- Draws the definition of an active machine into the working set, and answers the machines
registered on the way.  A machine without definition is expanded as it is. -/
def expand (id : MachineId) : LexiconM (List MachineId) := do
  let name ← ask (·.graph.name id)
  if !(← get).isActive id then throw (.notActive name)
  match (← get).static? name with
  | none =>
    setExpanded id
    return []
  | some definition =>
    let m ← ask (·.graph.get definition)
    let registered ← representAll id (Graph.numberedLinks m)
    setExpanded id
    return registered

def allNamesActive (l : Lexicon) : List MachineId → Except Error Bool
  | [] => .ok true
  | id :: ids => do
    let name ← l.graph.name id
    if l.isNameActive name then allNamesActive l ids else return false

/-- Makes an instance of a definition if it has arguments and all of them are active by name. -/
def promote (name : String) (definition : MachineId) : LexiconM (Option MachineId) := do
  let m ← ask (·.graph.get definition)
  let arguments := (m.parts.drop 1).flatten
  if arguments.isEmpty then return none
  if !(← ask (·.allNamesActive arguments)) then return none
  let id ← create name m.control
  addActive [id]
  return some id

def promoteAll : List (String × MachineId) → LexiconM (List MachineId)
  | [] => pure []
  | (name, definition) :: rest => do
    let new ← promote name definition
    let more ← promoteAll rest
    return new.toList ++ more

/-- Promotes, in order of the names, the definitions whose names are not active at the start. -/
def activate : LexiconM (List MachineId) := do
  let l ← get
  promoteAll (l.statics.entries.filter fun e => !l.isNameActive e.1)

end MeaningGraph.Lexicon
