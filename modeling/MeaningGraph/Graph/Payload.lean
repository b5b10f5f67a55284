/-
Compiling the message of a plugin machine.
-/
import MeaningGraph.Graph.Basic

namespace MeaningGraph.PluginCall

/-- The name of the first machine in the slot's partition. -/
def argument? (g : Graph) (m : Machine) (slot : PluginSlot) : Option (String × String) :=
  match m.part slot.partition with
  | [] => none
  | filler :: _ => (g.name? filler).map ((slot.name, ·))

/-- The message of the call for the machine that carries it; none while some slot's partition is
empty. -/
def message? (call : PluginCall) (g : Graph) (id : MachineId) : Option Message := do
  let m ← g.find? id
  let fields ← call.slots.mapM (argument? g m)
  return ⟨call.endpoint, .ofList fields⟩

end MeaningGraph.PluginCall
