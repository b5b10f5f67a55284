/-
Matrix rules: an attribute-value matrix is filled one active machine at a time.

The rule changes nothing in the graph.  It has a message to report as soon as its matrix is satisfied.
-/
import MeaningGraph.Avm.Basic
import MeaningGraph.Rule.Basic

namespace MeaningGraph

/-- The rule that fills a matrix. -/
structure AvmRule where
  name : String
  avm : Avm
deriving Repr

namespace AvmRule

/-- The sequence is a single machine and the matrix would take it. -/
def check (r : AvmRule) (g : Graph) : List MachineId → Bool
  | [id] => r.avm.accepts g id
  | _ => false

/-- Fills the matrix; the answer is the sequence itself if some slot took the machine. -/
def act (r : AvmRule) (g : Graph) : List MachineId → Option (List MachineId) × AvmRule
  | [id] =>
    let (count, avm) := r.avm.fill g id
    (if count = 0 then none else some [id], { r with avm })
  | _ => (none, r)

instance : Rule AvmRule where
  name := AvmRule.name
  kind _ := .avm
  check g seq := Rule.answer (·.check g seq)
  act seq := fun (r, l) =>
    let (answer, r) := r.act l.graph seq
    .ok answer (r, l)
  filledSlots r := r.avm.filledCount
  message? r g := if r.avm.isSatisfied then some ⟨r.name, r.avm.toTable g⟩ else none
  reset r := { r with avm := r.avm.clear }

end AvmRule

end MeaningGraph
