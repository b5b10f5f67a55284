/-
# Names and controls

No operation gives a machine another name: a link leaves all names and controls alone, and what is new has the
name it was made with, a copy that of its original.
-/
import MeaningGraph.Proofs.Graph.Copy

namespace MeaningGraph.Graph

variable {g g' : Graph} {id : MachineId}

theorem name_of_find? {g : Graph} {id : MachineId} {m : Machine} (h : g.find? id = some m) :
    g.name id = .ok m.name := by
  rw [name, get_of_find? h]
  rfl

theorem name_of_not_contains (h : g.contains id = false) : g.name id = .error (.stale id) := by
  rw [name, get_of_not_contains h]
  rfl

theorem map_find?_append {β : Type} {π : Machine → β} {p c : MachineId} {i : Nat}
    (hchild : ∀ m, π (m.addChild c i) = π m) (hparent : ∀ m, π (m.addParent ⟨p, i⟩) = π m)
    (h : g.append p c i = .ok g') (id : MachineId) : (g'.find? id).map π = (g.find? id).map π := by
  obtain ⟨-, -, ⟨-, rfl⟩ | ⟨-, rfl⟩⟩ := append_cases h
  · rfl
  · exact (map_find?_update hparent ..).trans (map_find?_update hchild ..)

theorem name?_append {p c : MachineId} {i : Nat} (h : g.append p c i = .ok g') (id : MachineId) :
    g'.name? id = g.name? id := by
  refine map_find?_append ?_ ?_ h id
  · exact fun _ => rfl
  · exact fun _ => rfl

theorem control?_append {p c : MachineId} {i : Nat} (h : g.append p c i = .ok g') (id : MachineId) :
    g'.control? id = g.control? id := by
  have hmap : (g'.find? id).map (·.control) = (g.find? id).map (·.control) := by
    refine map_find?_append ?_ ?_ h id
    · exact fun _ => rfl
    · exact fun _ => rfl
  have hbind := congrArg (·.bind fun control => control) hmap
  rw [Option.bind_map, Option.bind_map] at hbind
  exact hbind

theorem name?_of_name {name : String} (h : g.name id = .ok name) : g.name? id = some name := by
  cases hlive : g.contains id with
  | false =>
    rw [name_of_not_contains hlive] at h
    cases h
  | true =>
    obtain ⟨m, hm⟩ := contains_iff.1 hlive
    rw [name_of_find? hm] at h
    cases h
    exact name?_of_find? hm

theorem SlotsOrdered.name?_create (h : g.SlotsOrdered) (name : String) (control : Option Control) :
    (g.create name control).2.name? (g.create name control).1 = some name :=
  name?_of_find? (h.find?_create_self name control)

theorem Sound.name?_deepCopy {root copy : MachineId} (h : g.Sound)
    (hcopy : g.deepCopy root = .ok (copy, g')) : g'.name? copy = g.name? root := by
  have hspec := h.deepCopy_cases hcopy
  obtain ⟨m, hm⟩ := hspec.find?_original hspec.root_mem
  have hfind := hspec.find?_copy root copy hspec.root_mem
  rw [hm] at hfind
  rw [name?_of_find? hfind, name?_of_find? hm]
  rfl

end MeaningGraph.Graph
