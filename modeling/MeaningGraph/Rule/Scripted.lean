/-
Scripted rules: rules whose answers are laid down beforehand.

A scripted rule accepts one sequence of names, as long as it has firings left.  Each firing answers
the same list: machines of the sequence, and new machines with children of their own.
-/
import MeaningGraph.Rule.Basic

namespace MeaningGraph

/-- An item of a scripted answer. -/
inductive ScriptedItem where
  /-- The machine at a position of the sequence; left out when there is none. -/
  | position (i : Nat)
  /-- A new machine, with new children of the given names and partitions. -/
  | new (name : String) (control : Option Control) (children : List (Nat × String))
deriving DecidableEq, Repr

/-- A rule with a fixed answer. -/
structure ScriptedRule where
  name : String
  kind : RuleKind
  names : List String
  fires : Nat
  result : Option (List ScriptedItem)
deriving DecidableEq, Repr

namespace ScriptedRule

/-- The machines have the given names, one by one; a stale machine is an error if it is reached. -/
def sameNames (g : Graph) : List MachineId → List String → Except Error Bool
  | [], [] => .ok true
  | id :: ids, name :: names => do
    if (← g.name id) = name then sameNames g ids names else return false
  | _, _ => .ok false

/-- There are firings left, and the sequence has the names of the rule. -/
def check (r : ScriptedRule) (g : Graph) (seq : List MachineId) : Except Error Bool :=
  if r.fires = 0 || seq.length ≠ r.names.length then .ok false else sameNames g seq r.names

def addChildren (id : MachineId) : List (Nat × String) → LexiconM Unit
  | [] => pure ()
  | (p, name) :: rest => do
    let child ← Lexicon.create name none
    Lexicon.changeGraph (·.append id child p)
    addChildren id rest

/-- Builds the answer item by item. -/
def build (seq : List MachineId) : List ScriptedItem → LexiconM (List MachineId)
  | [] => pure []
  | .position i :: items => do
    let rest ← build seq items
    return (seq[i]?).toList ++ rest
  | .new name control children :: items => do
    let id ← Lexicon.create name control
    addChildren id children
    let rest ← build seq items
    return id :: rest

/-- The answer of one firing. -/
def answer (r : ScriptedRule) (seq : List MachineId) : LexiconM (Option (List MachineId)) :=
  match r.result with
  | none => pure none
  | some items => do return some (← build seq items)

instance : Rule ScriptedRule where
  name := ScriptedRule.name
  kind := ScriptedRule.kind
  check g seq := fun r =>
    match r.check g seq with
    | .ok b => .ok b r
    | .error e => .error e r
  act seq := fun (r, l) =>
    Rule.onPart (fun l => ({ r with fires := r.fires - 1 }, l)) (r.answer seq) l

end ScriptedRule

end MeaningGraph
