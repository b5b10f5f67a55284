/-
# What enters the working set, and what is marked there

A machine is marked once it was expanded.  Of all that the operations of a run do to the working set, expanding
alone marks, and it marks one machine:

    Enters l l'       l' is l with gains, and the same machines are marked
    expand id         gains, and the machines marked before are marked, and `id`

Registering, linking, copying, making and activating machines enter.  In a lexicon whose two views of the working
set agree and whose active machines are live, the marked machines are those listed as expanded, and an active
machine is listed either so or as unexpanded.  Gains keep that up (`Gains.inUse`).
-/
import MeaningGraph.Proofs.Lexicon.Ready
import MeaningGraph.Proofs.Lexicon.Views

namespace MeaningGraph.Lexicon

open Outcome

variable {l l' : Lexicon} {id x : MachineId} {ids : List MachineId} {name : String}

/-! ## Live working sets -/

/-- The lexicon is in order, its two views of the working set agree, and its active machines are live. -/
structure InUse (l : Lexicon) : Prop where
  sound : l.Sound
  filed : l.Filed
  views : l.Views
  live : ∀ id ∈ l.order, l.graph.contains id = true

theorem Reachable.inUse (h : l.Reachable) (hlive : ∀ id ∈ l.order, l.graph.contains id = true) : l.InUse :=
  ⟨h.sound, h.filed, h.views, hlive⟩

theorem Changes.inUse (h : Changes l l') (hl : l.InUse) : l'.InUse := by
  induction h with
  | refl => exact hl
  | tail _ h ih =>
    have hevolves := h.evolves ih.sound
    exact ⟨hevolves.sound, hevolves.filed ih.filed, h.views ih.filed ih.views, h.live ih.sound ih.live⟩

theorem Gains.inUse (h : Gains l l') (hl : l.InUse) : l'.InUse :=
  h.changes.inUse hl

theorem InUse.isActive (h : l.InUse) (hid : id ∈ l.order) : l.isActive id = true :=
  (h.views.listed.mem_order_iff h.filed (h.live id hid)).1 hid

theorem InUse.mem_instances_iff (h : l.InUse) (hname : l.graph.name? id = some name) :
    id ∈ l.instances name ↔ id ∈ l.order := by
  rw [h.views.listed id]
  refine ⟨fun hid => ⟨name, hid⟩, ?_⟩
  rintro ⟨name', hid⟩
  exact (h.filed name' id hid).2 name hname ▸ hid

theorem InUse.order_addActive (h : l.InUse) {u : Unit} (hadd : addActive ids l = .ok u l') :
    l'.order = l.order ++ (ids.filter (· ∉ l.order)).eraseDups := by
  induction ids generalizing l with
  | nil =>
    cases hadd
    simp
  | cons id ids ih =>
    obtain ⟨name, l₁, hname, hrest⟩ := steps_of_ok hadd
    obtain ⟨hname, rfl⟩ := ask_ok hname
    obtain ⟨_, l₂, hregister, hrest⟩ := steps_of_ok hrest
    cases hregister
    have hid := h.mem_instances_iff (Graph.name?_of_name hname)
    have hgain : Gain l₁ (register name id l₁) := .register (Graph.name?_of_name hname)
    by_cases hmem : id ∈ l₁.order
    · rw [register_of_mem (hid.2 hmem)] at hrest
      rw [ih h hrest, Search.append_unseen_cons, if_pos hmem]
    · have horder : (register name id l₁).order = l₁.order ++ [id] := by
        rw [register_of_not_mem (mt hid.1 hmem)]
      rw [ih (Gains.inUse (.single hgain) h) hrest, horder, Search.append_unseen_cons, if_neg hmem]

theorem InUse.subset_order_addActive (h : l.InUse) {u : Unit} (hadd : addActive ids l = .ok u l') :
    ids ⊆ l'.order := by
  intro id hid
  rw [h.order_addActive hadd, List.mem_append, List.mem_eraseDups, List.mem_filter]
  by_cases hmem : id ∈ l.order
  · exact .inl hmem
  · exact .inr ⟨hid, decide_eq_true hmem⟩

/-! ## Marked machines -/

/-- Some entry of the machine says that it was expanded. -/
def Marked (l : Lexicon) (id : MachineId) : Prop :=
  ∃ name, ⟨id, true⟩ ∈ l.entries name

theorem marked_congr (h : l'.active = l.active) : l'.Marked x ↔ l.Marked x := by
  unfold Marked
  simp only [entries_congr h]

theorem marked_register : (register name id l).Marked x ↔ l.Marked x := by
  by_cases hmem : id ∈ l.instances name
  · rw [register_of_mem hmem]
  · rw [register_of_not_mem hmem]
    refine exists_congr fun other => ?_
    rw [entries_insert]
    split
    · rename_i heq
      simp [heq]
    · rfl

theorem marked_setExpanded {u : Unit} (h : setExpanded id l = .ok u l') :
    l'.Marked x ↔ l.Marked x ∨ x = id := by
  obtain ⟨name, -, hentry, rfl⟩ := setExpanded_cases h
  have hentries := entries_insert l name ((l.entries name).map (ActiveEntry.expand id)) l.order
  constructor
  · rintro ⟨other, he⟩
    rw [hentries other] at he
    split at he
    · rcases ActiveEntry.mem_map_expand_iff.1 he with he | ⟨heq, -⟩
      · exact .inl ⟨name, he⟩
      · exact .inr heq
    · exact .inl ⟨other, he⟩
  · rintro (⟨other, he⟩ | rfl)
    · refine ⟨other, ?_⟩
      rw [hentries other]
      split
      · rename_i heq
        exact ActiveEntry.mem_map_expand_iff.2 (.inl (heq ▸ he))
      · exact he
    · refine ⟨name, ?_⟩
      rw [hentries name, if_pos rfl]
      exact ActiveEntry.mem_map_expand_iff.2 (.inr ⟨rfl, hentry⟩)

theorem InUse.entry?_iff (h : l.InUse) {flag : Bool} :
    (l.entry? id).any (·.expanded = flag) = true ↔ id ∈ l.order ∧ (l.Marked id ↔ flag = true) := by
  cases hentry : l.entry? id with
  | none =>
    have hinactive : l.isActive id = false := by
      rw [Lexicon.isActive, hentry]
      rfl
    refine ⟨fun hnone => (Bool.false_ne_true hnone).elim, fun hid => ?_⟩
    rw [h.isActive hid.1] at hinactive
    cases hinactive
  | some e =>
    obtain ⟨name, hname, hfind⟩ := Option.bind_eq_some_iff.1 hentry
    have hmachine : e.machine = id := by simpa using List.find?_some hfind
    have he := List.mem_of_find?_eq_some hfind
    have hid : id ∈ l.order := (h.mem_instances_iff hname).1 (mem_instances.2 ⟨e, he, hmachine⟩)
    have hmarked : l.Marked id ↔ e.expanded = true := by
      constructor
      · rintro ⟨name', he'⟩
        obtain rfl := (h.filed name' id (mem_instances.2 ⟨_, he', rfl⟩)).2 name hname
        have heq : e = ⟨id, true⟩ := List.inj_on_of_nodup_map (h.views.nodup_instances name) he he' hmachine
        rw [heq]
      · intro hflag
        refine ⟨name, ?_⟩
        rwa [← hmachine, ← hflag]
    rw [Option.any_some, decide_eq_true_iff, hmarked]
    cases e.expanded <;> cases flag <;> simp [hid]

theorem Views.mem_order_of_marked (h : l.Views) (hid : l.Marked id) : id ∈ l.order := by
  obtain ⟨name, he⟩ := hid
  exact (h.listed id).2 ⟨name, mem_instances.2 ⟨_, he, rfl⟩⟩

theorem InUse.mem_expanded_iff (h : l.InUse) : id ∈ l.expanded true ↔ l.Marked id := by
  rw [expanded, List.mem_filter, h.entry?_iff]
  simp only [iff_true]
  exact ⟨fun hid => hid.2.2, fun hid => ⟨h.views.mem_order_of_marked hid, h.views.mem_order_of_marked hid, hid⟩⟩

theorem InUse.not_marked_of_mem_unexpanded (h : l.InUse) (hid : id ∈ l.unexpanded) : ¬ l.Marked id := by
  rw [unexpanded, expanded, List.mem_filter, h.entry?_iff] at hid
  exact fun hmarked => Bool.false_ne_true (hid.2.2.1 hmarked)

theorem InUse.nodup_expanded (h : l.InUse) (flag : Bool) : (l.expanded flag).Nodup :=
  List.filter_sublist.nodup h.views.nodup

/-! ## Entering -/

/-- Something comes and nothing goes, and no machine is marked. -/
structure Enters (l l' : Lexicon) : Prop where
  gains : Gains l l'
  marked : ∀ id, l'.Marked id ↔ l.Marked id

instance : Std.Refl Enters where
  refl _ := ⟨.refl, fun _ => Iff.rfl⟩

instance : IsTrans Lexicon Enters where
  trans _ _ _ h h' := ⟨h.gains.trans h'.gains, fun id => (h'.marked id).trans (h.marked id)⟩

theorem Gain.enters (h : Gain l l') (hactive : l'.active = l.active) : Enters l l' :=
  ⟨.single h, fun _ => marked_congr hactive⟩

theorem enters_create (name : String) (control : Option Control) : Within Enters (create name control) :=
  fun _ => Gain.enters (.create name control) rfl

theorem enters_append (p c : MachineId) (i : Nat) : Within Enters (changeGraph (·.append p c i)) :=
  within_changeGraph fun _ _ h => Gain.enters (.append h) rfl

theorem enters_setControl (id : MachineId) (control : Option Control) :
    Within Enters (changeGraph (·.setControl id control)) :=
  within_changeGraph fun _ _ h => Gain.enters (.setControl h) rfl

theorem enters_deepCopy (root : MachineId) : Within Enters (grow (·.deepCopy root)) :=
  within_grow fun _ _ _ h => Gain.enters (.deepCopy h) rfl

theorem enters_addActive (ids : List MachineId) : Within Enters (addActive ids) := by
  induction ids with
  | nil => exact .pure ()
  | cons id ids ih =>
    refine within_ask_name fun name l h => ?_
    have hregister : Enters l (register name id l) := ⟨.single (.register h), fun _ => marked_register⟩
    exact trans_of Enters hregister (ih _)

theorem enters_representAll (id : MachineId) (links : List (Nat × MachineId)) :
    Within Enters (representAll id links) :=
  within_stepwise.representAll (within_stepwise.represent enters_deepCopy enters_addActive enters_append) id links

theorem enters_activate : Within Enters activate :=
  within_stepwise.activate (within_stepwise.promote enters_create enters_addActive)

theorem marked_expand {new : List MachineId} (h : expand id l = .ok new l') : l'.Marked x ↔ l.Marked x ∨ x = id := by
  rw [expand_eq] at h
  obtain ⟨name, l₁, hname, hget⟩ := steps_of_ok h
  obtain ⟨-, rfl⟩ := ask_ok hname
  rw [get_bind] at hget
  split at hget
  · unfold expandActive at hget
    rw [get_bind] at hget
    cases hstatic : l₁.static? name with
    | none =>
      rw [hstatic] at hget
      obtain ⟨_, l₂, hset, hend⟩ := steps_of_ok hget
      cases hend
      exact marked_setExpanded hset
    | some definition =>
      rw [hstatic] at hget
      obtain ⟨m, l₂, hm, hrest⟩ := steps_of_ok hget
      obtain ⟨-, rfl⟩ := ask_ok hm
      obtain ⟨registered, l₃, hrep, hrest⟩ := steps_of_ok hrest
      obtain ⟨_, l₄, hset, hend⟩ := steps_of_ok hrest
      cases hend
      have henters : Enters l₂ l₃ := (enters_representAll id _).of_ok hrep
      rw [marked_setExpanded hset, henters.marked]
  · cases hget

end MeaningGraph.Lexicon
