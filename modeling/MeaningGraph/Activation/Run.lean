/-
Spreading activation: the main loop of an analysis.

    reduce the chunks, then repeat
      (a) expand the active machines that are not expanded
      (b) try each semantic rule on arrangements of active machines
      (c) offer every active machine to each matrix rule
      (d) activate definitions whose arguments are active
    until a matrix is satisfied, the iterations allowed after the first plugin machine have run, or an
    iteration neither fired a semantic rule nor let the active machines and filled slots grow

An iteration limit bounds the loop in any case.
-/
import MeaningGraph.Activation.Basic
import MeaningGraph.Activation.Pass
import MeaningGraph.Chunk
import MeaningGraph.Graph.Payload
import MeaningGraph.Session

namespace MeaningGraph.Activation

variable {ρ : Type} [Rule ρ]

/-! ## The loop -/

/-- What has to grow for the loop to go on without a semantic rule firing. -/
def growth (s : Session ρ) : Nat :=
  s.lexicon.order.length + s.rules.filledSlots

/-- The active machines that call a plugin. -/
def pluginMachines (l : Lexicon) : List (MachineId × PluginCall) :=
  l.order.filterMap fun id =>
    match l.graph.control? id with
    | some (.plugin call) => some (id, call)
    | _ => none

/-- One iteration: its counters, and whether a matrix is satisfied. -/
def iterate (o : Options) : SessionM ρ (Iteration × Bool) := do
  let expanded ← SessionM.onLexicon expandPass
  let fired ← SessionM.onSemanticRules (RulesM.each (fire o.maxArity))
  let filled ← SessionM.onAvmRules (RulesM.each offerAll)
  let activated ← SessionM.onLexicon Lexicon.activate
  let active := (← get).lexicon.order.length
  return (⟨expanded, fired.countP id, filled.foldr (·.1 + ·) 0, activated.length, active⟩,
    filled.any (·.2))

/-- Why the loop stops after an iteration, if it does; `plugin` is the number of the first iteration
with a plugin machine, `number` that of the iteration that ended, and `grown` tells whether there was
growth. -/
def stop? (o : Options) (it : Iteration) (satisfied : Bool) (plugin : Option Nat) (number : Nat)
    (grown : Bool) : Option StopReason :=
  if satisfied then some .avmSatisfied
  else if plugin.any fun first => number - first ≥ o.safetyIterations then some .safetyExhausted
  else if it.fired = 0 && !grown then some .noGrowth
  else none

/-- Iterates at most `left` more times, from iteration `number` on. -/
def saturate (o : Options) : (left number : Nat) → (plugin : Option Nat) →
    SessionM ρ (List Iteration × StopReason)
  | 0, _, _ => pure ([], .iterationCap)
  | left + 1, number, plugin => do
    let before := growth (← get)
    let (it, satisfied) ← iterate o
    let s ← get
    let plugin := plugin <|> if (pluginMachines s.lexicon).isEmpty then none else some number
    match stop? o it satisfied plugin number (before < growth s) with
    | some reason => return ([it], reason)
    | none =>
      let (its, reason) ← saturate o left (number + 1) plugin
      return (it :: its, reason)

/-! ## The run -/

/-- Budgets are words of 64 bits. -/
def wordSize : Nat := UInt64.size

/-- How often a rule may fire on each chunk. -/
def reductionBudget (o : Options) (chunks : List (List MachineId)) : Except Error Nat :=
  let budget := max o.maxIterations 1 * max chunks.flatten.length 1
  if budget < wordSize then .ok budget else .error .overflow

/-- The numbers of the chunks that are not a single machine. -/
def unreduced (chunks : List (List MachineId)) : List Nat :=
  chunks.zipIdx.filterMap fun (chunk, i) => if chunk.length = 1 then none else some i

/-- The messages of the plugin machines, then of the satisfied matrices. -/
def messages (s : Session ρ) : List Message :=
  (pluginMachines s.lexicon).filterMap (fun (id, call) => call.message? s.lexicon.graph id) ++
    s.rules.avm.filterMap fun r => Rule.message? r s.lexicon.graph

/-- Registers the machines of the chunks as active, reduces the chunks and runs the main loop. -/
def run (o : Options) (chunks : List (List MachineId)) : SessionM ρ Outcome := do
  SessionM.onLexicon (Lexicon.addActive chunks.flatten)
  let budget ← SessionM.onLexicon (Lexicon.ask fun _ => reductionBudget o chunks)
  let (reductions, reduced) ← SessionM.onChunkRules (Chunk.reduceAll budget chunks)
  let (iterations, stop) ← saturate o o.maxIterations 1 none
  return {
    chunks := reduced
    unreduced := unreduced reduced
    messages := messages (← get)
    reductions, iterations, stop }

end MeaningGraph.Activation
