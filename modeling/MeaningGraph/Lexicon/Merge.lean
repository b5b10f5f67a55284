/-
Folding new machines into the working set.
-/
import MeaningGraph.Lexicon.Basic
import MeaningGraph.Graph.Fold

namespace MeaningGraph.Lexicon

/-- Folds `merge` into `keep` and takes it out of the working set. -/
def unify (keep merge : MachineId) : LexiconM Unit := do
  if keep = merge then return ()
  changeGraph (·.fold keep merge)
  let name ← ask (·.graph.name merge)
  modify (drop name merge)

/-- Brings one machine into the working set: an active one stays, another one is folded into the first
active instance of its name, or registered when there is none.  The machine it became is answered. -/
def merge (id : MachineId) : LexiconM MachineId := do
  if (← get).isActive id then return id
  let name ← ask (·.graph.name id)
  match (← get).firstInstance? name with
  | some existing =>
    unify existing id
    return existing
  | none =>
    addActive [id]
    return id

def mergeActive : List MachineId → LexiconM (List MachineId)
  | [] => pure []
  | id :: ids => do
    let one ← merge id
    let more ← mergeActive ids
    return one :: more

end MeaningGraph.Lexicon
