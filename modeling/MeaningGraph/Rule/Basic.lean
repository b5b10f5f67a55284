/-
Rules: what recognises a sequence of machines and then changes the graph.

    check      reads the sequence with the rule's automaton; the graph is not touched
    refused?   the beginning of a sequence by which the automaton is lost
    lastCheck  looks at the links, after the automaton accepted
    act        changes the graph, and answers what replaces the sequence, or nothing when `lastCheck` fails

A rule may carry state from call to call: the states its automaton reached, the slots it filled.
-/
import MeaningGraph.Lexicon.Basic

namespace MeaningGraph

/-- Where in an analysis a rule is tried. -/
inductive RuleKind where
  /-- On the windows of a chunk, before the main loop. -/
  | chunk
  /-- On arrangements of active machines, inside the main loop. -/
  | semantic
  /-- On one active machine at a time, inside the main loop. -/
  | avm
deriving DecidableEq, Repr

/-- What a type of rules provides. -/
class Rule (ρ : Type) where
  /-- The name of the rule. -/
  name : ρ → String
  /-- Where the rule is tried. -/
  kind : ρ → RuleKind
  /-- The automaton accepts the sequence. -/
  check : Graph → List MachineId → EStateM Error ρ Bool
  /-- A beginning of the sequence that is refused already: no sequence that begins so passes the check. -/
  refused? : ρ → Graph → List MachineId → Option (List MachineId) := fun _ _ _ => none
  /-- The links allow the rule to act. -/
  lastCheck : ρ → Graph → List MachineId → Bool := fun _ _ _ => true
  /-- Changes the graph for the sequence, and answers its replacement. -/
  act : List MachineId → EStateM Error (ρ × Lexicon) (Option (List MachineId))
  /-- The number of slots filled so far. -/
  filledSlots : ρ → Nat := fun _ => 0
  /-- What the rule has to report, once it is satisfied. -/
  message? : ρ → Graph → Option Message := fun _ _ => none
  /-- Forgets what belongs to the current sentence. -/
  reset : ρ → ρ := id

namespace Rule

/-- Runs a change on one part of the state. -/
def onPart {σ τ α : Type} (inject : σ → τ) (x : EStateM Error σ α) (s : σ) :
    EStateM.Result Error τ α :=
  match x s with
  | .ok a s => .ok a (inject s)
  | .error e s => .error e (inject s)

/-- An answer that leaves the rule as it is. -/
def answer {ρ α : Type} (f : ρ → α) : EStateM Error ρ α := fun r =>
  .ok (f r) r

/-- A change of the lexicon that leaves the rule as it is. -/
def onLexicon {ρ α : Type} (f : ρ → LexiconM α) : EStateM Error (ρ × Lexicon) α := fun (r, l) =>
  onPart (r, ·) (f r) l

/-! A rule of one of two types is a rule. -/

instance instSum {ρ₁ ρ₂ : Type} [Rule ρ₁] [Rule ρ₂] : Rule (ρ₁ ⊕ ρ₂) where
  name := Sum.elim name name
  kind := Sum.elim kind kind
  check g seq := fun r =>
    match r with
    | .inl r => onPart .inl (check g seq) r
    | .inr r => onPart .inr (check g seq) r
  refused? := Sum.elim refused? refused?
  lastCheck := Sum.elim lastCheck lastCheck
  act seq := fun (r, l) =>
    match r with
    | .inl r => onPart (fun s : ρ₁ × Lexicon => (.inl s.1, s.2)) (act seq) (r, l)
    | .inr r => onPart (fun s : ρ₂ × Lexicon => (.inr s.1, s.2)) (act seq) (r, l)
  filledSlots := Sum.elim filledSlots filledSlots
  message? := Sum.elim message? message?
  reset := Sum.map reset reset

end Rule

end MeaningGraph
