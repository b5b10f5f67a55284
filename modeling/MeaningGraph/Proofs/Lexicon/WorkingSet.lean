/-
# The working set

What registering a machine does to the order: a machine whose name has no entry yet comes at the end, and no
machine is ever taken out by registering another.  Beside it, what setting a flag and making a machine do.
-/
import MeaningGraph.Proofs.Lexicon.Sound

namespace MeaningGraph.Lexicon

open Outcome (steps_of_ok)

variable {l l' : Lexicon} {id : MachineId} {name : String}

theorem isActive_iff :
    l.isActive id = true ↔ ∃ name, l.graph.name? id = some name ∧ ∃ e ∈ l.entries name, e.machine = id := by
  unfold isActive entry?
  cases l.graph.name? id with
  | none => simp
  | some name => simp [List.find?_isSome]

theorem entries_eq_nil_of_firstInstance? (h : l.firstInstance? name = none) : l.entries name = [] := by
  unfold firstInstance? instances at h
  exact List.map_eq_nil_iff.1 (List.head?_eq_none_iff.1 h)

theorem isNameActive_eq_false_iff : l.isNameActive name = false ↔ l.entries name = [] := by
  rw [isNameActive, Bool.not_eq_false', List.isEmpty_iff]

theorem instances_eq_nil_iff : l.instances name = [] ↔ l.entries name = [] :=
  List.map_eq_nil_iff

/-! ## Registering -/

theorem order_register (name : String) (id : MachineId) (l : Lexicon) :
    l.order <+: (register name id l).order := by
  unfold register
  split
  · exact List.prefix_rfl
  · exact List.prefix_append l.order [id]

theorem order_register_of_nil (h : l.entries name = []) :
    (register name id l).order = l.order ++ [id] := by
  unfold register
  rw [h]
  rfl

theorem order_addActive {ids : List MachineId} {u : Unit} (h : addActive ids l = .ok u l') :
    l.order <+: l'.order := by
  induction ids generalizing l with
  | nil =>
    cases h
    exact List.prefix_rfl
  | cons id ids ih =>
    obtain ⟨name, l₁, hname, hrest⟩ := steps_of_ok h
    obtain ⟨-, rfl⟩ := ask_ok hname
    obtain ⟨_, l₂, hregister, hrest⟩ := steps_of_ok hrest
    cases hregister
    exact (order_register name id l₁).trans (ih hrest)

theorem graph_addActive {ids : List MachineId} {u : Unit} (h : addActive ids l = .ok u l') :
    l'.graph = l.graph := by
  induction ids generalizing l with
  | nil =>
    cases h
    rfl
  | cons id ids ih =>
    obtain ⟨name, l₁, hname, hrest⟩ := steps_of_ok h
    obtain ⟨-, rfl⟩ := ask_ok hname
    obtain ⟨_, l₂, hregister, hrest⟩ := steps_of_ok hrest
    cases hregister
    exact (ih hrest).trans (graph_register name id l₁)

theorem addActive_one (h : l.graph.name? id = some name) : addActive [id] l = .ok () (register name id l) := by
  obtain ⟨m, hm, rfl⟩ := Option.map_eq_some_iff.1 h
  exact ask_bind (Graph.name_of_find? hm)

theorem order_addActive_one {u : Unit} (h : addActive [id] l = .ok u l')
    (hname : l.graph.name? id = some name) (hnil : l.entries name = []) :
    l'.order = l.order ++ [id] := by
  rw [addActive_one hname] at h
  cases h
  exact order_register_of_nil hnil

/-! ## Setting a flag -/

theorem setExpanded_cases {u : Unit} (h : setExpanded id l = .ok u l') :
    ∃ name, l.graph.name id = .ok name ∧ (∃ e ∈ l.entries name, e.machine = id) ∧
      l' = { l with active := l.active.insert name ((l.entries name).map (ActiveEntry.expand id)) } := by
  obtain ⟨name, l₁, hname, hset⟩ := steps_of_ok h
  obtain ⟨hname, rfl⟩ := ask_ok hname
  change (if (l₁.entries name).any (·.machine = id) then _ else _ : LexiconM Unit) l₁ = _ at hset
  split at hset
  · rename_i hfiled
    cases hset
    obtain ⟨e, he, hid⟩ := List.any_eq_true.1 hfiled
    exact ⟨name, hname, ⟨e, he, of_decide_eq_true hid⟩, rfl⟩
  · cases hset

/-! ## Making a machine -/

/-- What is made has a handle that was never given out, and nothing else changes. -/
theorem exists_create (h : l.graph.SlotsOrdered) (name : String) (control : Option Control) :
    ∃ id g, create name control l = .ok id { l with graph := g } ∧ ¬ l.graph.Known id ∧
      ∀ other, g.find? other = if other = id then some (Graph.bare name control) else l.graph.find? other :=
  ⟨_, _, rfl, h.not_known_create name control, h.find?_create name control⟩

theorem find?_of_create {control : Option Control} (h : l.graph.SlotsOrdered)
    (hcreate : create name control l = .ok id l') : l'.graph.find? id = some (Graph.bare name control) := by
  injection hcreate with hid hl
  rw [← hid, ← hl]
  exact h.find?_create_self name control

theorem create_ok {control : Option Control} (h : l.graph.SlotsOrdered)
    (hcreate : create name control l = .ok id l') :
    l'.graph.name? id = some name ∧ l'.order = l.order ∧ l'.active = l.active := by
  refine ⟨Graph.name?_of_find? (find?_of_create h hcreate), ?_⟩
  cases hcreate
  exact ⟨rfl, rfl⟩

end MeaningGraph.Lexicon
