/-
Append rules: a modifier next to a head ends up in one partition of the head.

    modifier first    s0 --modifier--> s1 --head / appendEarlier 0 p--> s2
    head first        s0 --head--> s1 --modifier / appendToEarlier 0 p--> s2

The rule replaces the two machines by the head.
-/
import MeaningGraph.Rule.Basic
import MeaningGraph.Transducer

namespace MeaningGraph

/-- Which of the two machines comes first. -/
inductive Direction where
  | modifierFirst
  | headFirst
deriving DecidableEq, Repr

/-- A rule that appends a modifier to a head; a semantic one works on active machines instead of
chunks. -/
structure AppendRule where
  name : String
  modifier : Matcher
  head : Matcher
  partition : Nat := 0
  direction : Direction := .modifierFirst
  semantic : Bool := false
deriving Repr

namespace AppendRule

def transducer (r : AppendRule) : Transducer :=
  let (s₀, t) := Transducer.empty.addState true false
  let (s₁, t) := t.addState false false
  let (s₂, t) := t.addState false true
  match r.direction with
  | .modifierFirst =>
    (t.addEdge s₀ r.modifier s₁ []).addEdge s₁ r.head s₂ [.appendEarlier 0 r.partition]
  | .headFirst =>
    (t.addEdge s₀ r.head s₁ []).addEdge s₁ r.modifier s₂ [.appendToEarlier 0 r.partition]

/-- Modifier and head of a pair of machines in the order of the rule. -/
def roles (r : AppendRule) (first second : MachineId) : MachineId × MachineId :=
  match r.direction with
  | .modifierFirst => (first, second)
  | .headFirst => (second, first)

/-- The transducer, read dry, accepts the sequence. -/
def check (r : AppendRule) (g : Graph) (seq : List MachineId) : Bool :=
  (r.transducer.core.reset.scan g seq).1

/-- The sequence is a pair of different machines, and the head does not hold the modifier yet. -/
def lastCheck (r : AppendRule) (g : Graph) : List MachineId → Bool
  | [first, second] =>
    let (modifier, head) := r.roles first second
    first ≠ second && !((g.find? head).any fun m => modifier ∈ m.part r.partition)
  | _ => false

/-- Runs the transducer over the sequence; if it ends in a final state the head is the
replacement. -/
def act (r : AppendRule) (seq : List MachineId) : LexiconM (Option (List MachineId)) := fun l =>
  if !r.lastCheck l.graph seq then .ok none l
  else match Transducer.readAll seq (r.transducer.reset, l.graph) with
    | .error e (_, graph) => .error e { l with graph }
    | .ok () (t, graph) =>
      match t.core.atFinal, seq with
      | true, [first, second] => .ok (some [(r.roles first second).2]) { l with graph }
      | _, _ => .ok none { l with graph }

instance : Rule AppendRule where
  name := AppendRule.name
  kind r := if r.semantic then .semantic else .chunk
  check g seq := Rule.answer (·.check g seq)
  refused? r g seq := r.transducer.core.reset.refused? g seq
  lastCheck := AppendRule.lastCheck
  act seq := Rule.onLexicon (·.act seq)

end AppendRule

end MeaningGraph
