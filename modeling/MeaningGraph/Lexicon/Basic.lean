/-
The lexicon: background knowledge and a working set over one graph.

    statics   name ──▶ the defining machine                 loaded once
    active    name ──▶ its instances, expanded or not        per sentence
    order     the active machines in order of registration

The working set is kept twice, by name and in order; `addActive` and `drop` change both views together.

Operations that can fail run in `LexiconM`: what they changed before failing stays changed.
-/
import MeaningGraph.Graph.Walk
import MeaningGraph.Graph.Release

namespace MeaningGraph

/-- An instance in the working set. -/
structure ActiveEntry where
  machine : MachineId
  expanded : Bool := false
deriving DecidableEq, Repr

/-- The entry, expanded if it is the given machine's. -/
def ActiveEntry.expand (id : MachineId) (e : ActiveEntry) : ActiveEntry :=
  if e.machine = id then { e with expanded := true } else e

/-- Background knowledge and working set. -/
structure Lexicon where
  graph : Graph := {}
  statics : Table MachineId := {}
  active : Table (List ActiveEntry) := {}
  order : List MachineId := []
deriving Repr

/-- Changes of a lexicon that can fail, and keep what was changed before. -/
abbrev LexiconM := EStateM Error Lexicon

namespace Lexicon

def empty : Lexicon := {}

instance : Inhabited Lexicon := ⟨empty⟩

/-! ## Working on the graph -/

/-- Reads from the lexicon; a failure changes nothing. -/
def ask {α : Type} (f : Lexicon → Except Error α) : LexiconM α := fun l =>
  match f l with
  | .ok a => .ok a l
  | .error e => .error e l

/-- Changes the graph; a failure changes nothing. -/
def changeGraph (f : Graph → Except Error Graph) : LexiconM Unit := fun l =>
  match f l.graph with
  | .ok graph => .ok () { l with graph }
  | .error e => .error e l

def create (name : String) (control : Option Control) : LexiconM MachineId := fun l =>
  let (id, graph) := l.graph.create name control
  .ok id { l with graph }

/-- Replaces the graph by one in which a new machine was made. -/
def grow (f : Graph → Except Error (MachineId × Graph)) : LexiconM MachineId := fun l =>
  match f l.graph with
  | .ok (id, graph) => .ok id { l with graph }
  | .error e => .error e l

/-! ## The static table -/

/-- Makes machines the definitions of their names, in place of earlier ones. -/
def addStatic : List MachineId → LexiconM Unit
  | [] => pure ()
  | id :: ids => do
    let name ← ask (·.graph.name id)
    modify fun l => { l with statics := l.statics.insert name id }
    addStatic ids

/-- The definition of a name. -/
def static? (l : Lexicon) (name : String) : Option MachineId :=
  l.statics.find? name

/-! ## The working set -/

def entries (l : Lexicon) (name : String) : List ActiveEntry :=
  (l.active.find? name).getD []

/-- The active instances of a name, in order of registration. -/
def instances (l : Lexicon) (name : String) : List MachineId :=
  (l.entries name).map (·.machine)

def firstInstance? (l : Lexicon) (name : String) : Option MachineId :=
  (l.instances name).head?

def isNameActive (l : Lexicon) (name : String) : Bool :=
  !(l.entries name).isEmpty

def entry? (l : Lexicon) (id : MachineId) : Option ActiveEntry :=
  (l.graph.name? id).bind fun name => (l.entries name).find? (·.machine = id)

def isActive (l : Lexicon) (id : MachineId) : Bool :=
  (l.entry? id).isSome

def isExpanded (l : Lexicon) (id : MachineId) : Except Error Bool :=
  match l.entry? id with
  | some entry => .ok entry.expanded
  | none => (l.graph.name id).bind fun name => .error (.notActive name)

/-- The active machines that were expanded, or those that were not. -/
def expanded (l : Lexicon) (flag : Bool) : List MachineId :=
  l.order.filter fun id => (l.entry? id).any (·.expanded = flag)

def unexpanded (l : Lexicon) : List MachineId :=
  l.expanded false

/-- Registers a machine of that name, unless it is registered. -/
def register (name : String) (id : MachineId) (l : Lexicon) : Lexicon :=
  if (l.entries name).any (·.machine = id) then l
  else
    { l with
      active := l.active.insert name (l.entries name ++ [⟨id, false⟩])
      order := l.order ++ [id] }

/-- Registers machines as active; those that are already keep their place and flag. -/
def addActive : List MachineId → LexiconM Unit
  | [] => pure ()
  | id :: ids => do
    let name ← ask (·.graph.name id)
    modify (register name id)
    addActive ids

def setExpanded (id : MachineId) : LexiconM Unit := do
  let name ← ask (·.graph.name id)
  let l ← get
  if (l.entries name).any (·.machine = id) then
    set { l with
      active := l.active.insert name
        ((l.entries name).map (ActiveEntry.expand id)) }
  else throw (.notActive name)

/-- Takes a machine out of the working set. -/
def drop (name : String) (id : MachineId) (l : Lexicon) : Lexicon :=
  let left := (l.entries name).filter (·.machine ≠ id)
  { l with
    active := if left.isEmpty then l.active.erase name else l.active.insert name left
    order := l.order.filter (· ≠ id) }

/-- Empties the working set and releases what only it kept alive.  Background is everything joined
to a definition by links in either direction that do not pass through the working set. -/
def clearActive (l : Lexicon) : Lexicon :=
  let background := l.graph.connected l.statics.values l.order
  { l with graph := (l.graph.retain background).2, active := {}, order := [] }

end Lexicon

end MeaningGraph
