/-
The passes of one iteration.

    expand   every active machine that is not expanded
    fire     a semantic rule, on the first arrangement of active machines for which it acts
    offer    every active machine to a matrix rule

A pass works on the machines that are active when it starts.

There are many arrangements, but most of them begin like the one before.  Where the rule has refused such
a beginning, the arrangements with it are passed over: their checks would fail in the same place and leave
the rule as it is.
-/
import MeaningGraph.Arrangement
import MeaningGraph.Lexicon.Expand
import MeaningGraph.Lexicon.Merge
import MeaningGraph.Rule.Set

namespace MeaningGraph.Activation

variable {ρ : Type} [Rule ρ]

def expandEach : List MachineId → LexiconM Unit
  | [] => pure ()
  | id :: ids => do
    let _ ← Lexicon.expand id
    expandEach ids

/-- Expands the active machines that are not expanded, and counts them. -/
def expandPass : LexiconM Nat := do
  let ids := (← get).unexpanded
  expandEach ids
  return ids.length

/-- The sequences that pass the check of the rule, after those in `kept`, which stand in reverse.
`refused` is what the rule refuses of the sequence before; as long as sequences begin so, they are passed
over. -/
def candidates (kept : List (List MachineId)) (refused : Option (List MachineId)) :
    List (List MachineId) → EStateM Error (ρ × Lexicon) (List (List MachineId))
  | [] => pure kept.reverse
  | seq :: seqs => do
    if refused.any (·.isPrefixOf seq) then candidates kept refused seqs
    else if ← Rule.checkNow seq then candidates (seq :: kept) none seqs
    else
      let (r, l) ← get
      candidates kept (Rule.refused? r l.graph seq) seqs

/-- Lets the rule act on the first sequence for which it does, and brings the replacement into the
working set. -/
def fireFirst : List (List MachineId) → EStateM Error (ρ × Lexicon) Bool
  | [] => pure false
  | seq :: seqs => do
    match ← Rule.act seq with
    | some new =>
      let _ ← Rule.onlyLexicon (Lexicon.mergeActive new)
      return true
    | none => fireFirst seqs

/-- Tries a semantic rule on the arrangements of active machines, the longest first.  All checks are
made before the rule first acts. -/
def fire (maxArity : Nat) : EStateM Error (ρ × Lexicon) Bool := do
  let (_, l) ← get
  let seqs ← candidates [] none (arrangementsUpTo l.order maxArity)
  fireFirst seqs

/-- Offers machines to a rule one at a time. -/
def offerEach : List MachineId → EStateM Error (ρ × Lexicon) Unit
  | [] => pure ()
  | id :: ids => do
    if ← Rule.checkNow [id] then
      let _ ← Rule.act [id]
    offerEach ids

/-- Offers every active machine to a matrix rule: how many slots were filled, and whether the rule is
satisfied. -/
def offerAll : EStateM Error (ρ × Lexicon) (Nat × Bool) := do
  let (before, l) ← get
  offerEach l.order
  let (after, l) ← get
  return (Rule.filledSlots after - Rule.filledSlots before, (Rule.message? after l.graph).isSome)

end MeaningGraph.Activation
