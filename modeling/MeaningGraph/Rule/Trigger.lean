/-
Trigger rules: a fixed sequence of names makes a machine that calls a plugin.

The machine holds the triggering machines in partition 0.  Other rules fill the partitions of its
slots later on.  A machine that is a plugin machine of the same endpoint, or is held by one, does not
trigger again.
-/
import MeaningGraph.Rule.Basic
import MeaningGraph.Acceptor

namespace MeaningGraph

/-- A rule that makes a plugin machine. -/
structure TriggerRule where
  name : String
  trigger : List String
  call : PluginCall
deriving DecidableEq, Repr

namespace TriggerRule

/-- A chain of states, with an edge for each word. -/
def chain : List String → Nat → List Edge
  | [], _ => []
  | word :: words, s => ⟨s, .exact word, s + 1⟩ :: chain words (s + 1)

def automaton (r : TriggerRule) : Acceptor where
  stateCount := r.trigger.length + 1
  init := [0]
  final := [r.trigger.length]
  edges := chain r.trigger 0

/-- The names of the sequence are the words of the trigger. -/
def check (r : TriggerRule) (g : Graph) (seq : List MachineId) : Bool :=
  (r.automaton.reset.scan g seq).1

/-- The machine calls the rule's endpoint. -/
def isOwn (r : TriggerRule) (g : Graph) (id : MachineId) : Bool :=
  match g.control? id with
  | some (.plugin call) => call.endpoint == r.call.endpoint
  | _ => false

/-- The machine calls the rule's endpoint, or is held by a machine that does. -/
def isOwned (r : TriggerRule) (g : Graph) (id : MachineId) : Bool :=
  (g.find? id).any fun m => r.isOwn g id || m.parents.any fun link => r.isOwn g link.parent

/-- There are machines, and none is owned. -/
def lastCheck (r : TriggerRule) (g : Graph) (seq : List MachineId) : Bool :=
  !seq.isEmpty && !seq.any (r.isOwned g)

/-- Appends machines to partition 0. -/
def hold (plugin : MachineId) : List MachineId → LexiconM Unit
  | [] => pure ()
  | id :: ids => do
    Lexicon.changeGraph (·.append plugin id 0)
    hold plugin ids

/-- Makes the plugin machine of a sequence and registers it as active. -/
def act (r : TriggerRule) (seq : List MachineId) : LexiconM (Option (List MachineId)) := do
  if !r.lastCheck (← get).graph seq then return none
  let plugin ← Lexicon.create r.name (some (.plugin r.call))
  hold plugin seq
  Lexicon.addActive [plugin]
  return some [plugin]

instance : Rule TriggerRule where
  name := TriggerRule.name
  kind _ := .semantic
  check g seq := Rule.answer (·.check g seq)
  refused? r g seq := r.automaton.reset.refused? g seq
  lastCheck := TriggerRule.lastCheck
  act seq := Rule.onLexicon (·.act seq)

end TriggerRule

end MeaningGraph
