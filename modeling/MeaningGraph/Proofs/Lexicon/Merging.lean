/-
# Merging into the working set

`mergeActive` brings machines into the working set one after the other.  When its turn comes a machine becomes what
stands for it (`standIn`):

    it is active                           itself
    it is not, and its name is in use      the first instance of its name, into which it is folded
    it is not, and its name is not         itself, and it is registered

A turn settles its machine: the name is in use from then on, no instance of it goes and no other comes, so what
stands for the machine does not change any more.  The turns therefore add up to one quotient of the graph, in which
each machine is read as what stands for it in the end (`Merged`).  A machine that was folded away is not in the image
of that map, so none of the later turns can have linked it again, whatever links the merged machines had among
themselves.
-/
import MeaningGraph.Proofs.Lexicon.Registers
import MeaningGraph.Proofs.Lexicon.Entering

namespace MeaningGraph.Lexicon

open MeaningGraph.Graph (redirect redirect_self redirect_of_ne)

variable {l l₁ l₂ l' : Lexicon} {id keep x : MachineId} {ids xs ys : List MachineId} {name : String}

/-! ## Lexica in which machines can be folded -/

/-- The lexicon is in use, and its back-links stand in order, so that folding does not fail half-way. -/
structure Working (l : Lexicon) : Prop extends InUse l where
  ordered : l.graph.OrderedParents

theorem Reachable.working (h : l.Reachable) (hlive : ∀ id ∈ l.order, l.graph.contains id = true) : l.Working :=
  ⟨h.inUse hlive, h.orderedParents⟩

theorem Changes.working (h : Changes l l') (hl : l.Working) : l'.Working :=
  ⟨h.inUse hl.toInUse, h.keeps (P := fun l => l.graph.OrderedParents)
    (fun _ _ hl _ hordered hchange => hchange.orderedParents hl hordered) hl.sound hl.filed hl.ordered⟩

theorem InUse.name?_of_mem_instances (h : l.InUse) (hid : id ∈ l.instances name) :
    l.graph.name? id = some name := by
  obtain ⟨m, hm⟩ := Graph.contains_iff.1 (h.live id ((h.views.listed id).2 ⟨name, hid⟩))
  rw [Graph.name?_of_find? hm, (h.filed name id hid).2 m.name (Graph.name?_of_find? hm)]

theorem isActive_of_name? (hname : l.graph.name? id = some name) :
    l.isActive id = true ↔ id ∈ l.instances name := by
  simp [isActive_iff, hname, mem_instances]

/-! ## What stands for a machine -/

/-- What stands for a machine in the working set: an active machine for itself, the first instance of its name for
another, and again the machine itself while its name has no instance. -/
def standIn (l : Lexicon) (id : MachineId) : MachineId :=
  if l.isActive id then id else ((l.graph.name? id).bind l.firstInstance?).getD id

theorem standIn_of_isActive (h : l.isActive id = true) : l.standIn id = id :=
  if_pos h

theorem standIn_of_first (h : l.isActive id = false) (hname : l.graph.name? id = some name)
    (hfirst : l.firstInstance? name = some keep) : l.standIn id = keep := by
  simp [standIn, h, hname, hfirst]

theorem standIn_of_none (hname : l.graph.name? id = some name) (hnone : l.firstInstance? name = none) :
    l.standIn id = id := by
  simp [standIn, hname, hnone]

theorem standIn_congr (hname : l.graph.name? id = some name) (hname' : l'.graph.name? id = some name)
    (hinstances : l'.instances name = l.instances name) : l'.standIn id = l.standIn id := by
  have hactive : l'.isActive id = l.isActive id := by
    rw [Bool.eq_iff_iff, isActive_of_name? hname, isActive_of_name? hname', hinstances]
  simp only [standIn, hactive, hname, hname', Option.bind_some, firstInstance?, hinstances]

/-- The name of the machine is in use. -/
def Settled (l : Lexicon) (id : MachineId) : Prop :=
  ∃ name, l.graph.name? id = some name ∧ l.instances name ≠ []

theorem settled_of_isActive (h : l.isActive id = true) : l.Settled id := by
  obtain ⟨name, hname, e, he, hid⟩ := isActive_iff.1 h
  exact ⟨name, hname, List.ne_nil_of_mem (mem_instances.2 ⟨e, he, hid⟩)⟩

theorem Settled.isActive_standIn (h : l.Settled id) (hl : l.InUse) : l.isActive (l.standIn id) = true := by
  obtain ⟨name, hname, hne⟩ := h
  cases hactive : l.isActive id with
  | true => rwa [standIn_of_isActive hactive]
  | false =>
    obtain ⟨first, rest, hinstances⟩ := List.exists_cons_of_ne_nil hne
    have hfirst : l.firstInstance? name = some first := by
      rw [firstInstance?, hinstances]
      rfl
    have hmem : first ∈ l.instances name := by
      rw [hinstances]
      exact List.mem_cons_self
    rw [standIn_of_first hactive hname hfirst]
    exact (isActive_of_name? (hl.name?_of_mem_instances hmem)).2 hmem

theorem Registers.instances_of_ne_nil {new : List MachineId} (h : Registers l l' new) (hne : l.instances name ≠ []) :
    l'.instances name = l.instances name := by
  have hnone : new.filter (l'.graph.name? · = some name) = [] :=
    List.filter_eq_nil_iff.2 fun r hr hname => hne (h.instances_of_mem hr (of_decide_eq_true hname)).1
  rw [h.instances, hnone, List.append_nil]

/-! ## What a run leaves -/

/-- The machines that a run brings in are read as what stands for them, and all others as themselves. -/
def become (l : Lexicon) (ids : List MachineId) (id : MachineId) : MachineId :=
  if id ∈ ids then l.standIn id else id

/-- `l'` is `l` with the machines brought into the working set. -/
structure Merged (ids : List MachineId) (l l' : Lexicon) : Prop where
  /-- The same machines are live, with the names and the controls they had. -/
  relinked : Graph.Relinked l.graph l'.graph
  /-- The links are those of before, with each of the machines read as what stands for it. -/
  holds : ∀ p i c, l'.graph.Holds p i c ↔
    ∃ p' c', l.graph.Holds p' i c' ∧ l'.become ids p' = p ∧ l'.become ids c' = c
  /-- Some of the machines were registered, each as the first instance of its name. -/
  registers : ∃ new ⊆ ids, Registers l l' new
  settled : ∀ id ∈ ids, l'.Settled id
  marked : ∀ id, l'.Marked id ↔ l.Marked id
  statics : l'.statics = l.statics

namespace Merged

theorem instances (h : Merged ids l l') (hne : l.instances name ≠ []) : l'.instances name = l.instances name := by
  obtain ⟨new, -, hregisters⟩ := h.registers
  exact hregisters.instances_of_ne_nil hne

theorem standIn (h : Merged ids l l') (hid : l.Settled id) : l'.Settled id ∧ l'.standIn id = l.standIn id := by
  obtain ⟨name, hname, hne⟩ := hid
  have hname' : l'.graph.name? id = some name := (h.relinked.name? id).trans hname
  exact ⟨⟨name, hname', by rwa [h.instances hne]⟩, standIn_congr hname hname' (h.instances hne)⟩

theorem isActive (h : Merged ids l l') (hid : l.isActive id = true) : l'.isActive id = true := by
  obtain ⟨name, hname, hmem⟩ := isActive_iff.1 hid
  have hid' := (isActive_of_name? hname).1 hid
  rw [isActive_of_name? ((h.relinked.name? id).trans hname), h.instances (List.ne_nil_of_mem hid')]
  exact hid'

/-- Runs add up: what stands for a machine after the first still does after the second. -/
theorem trans (h : Merged xs l l₁) (h' : Merged ys l₁ l₂) (hl₁ : l₁.InUse) : Merged (xs ++ ys) l l₂ where
  relinked := h.relinked.trans h'.relinked
  holds p i c := by
    have hbecome : ∀ x, l₂.become ys (l₁.become xs x) = l₂.become (xs ++ ys) x := by
      intro x
      unfold become
      by_cases hx : x ∈ xs
      · have hactive := h'.isActive ((h.settled x hx).isActive_standIn hl₁)
        rw [if_pos hx, if_pos (List.mem_append_left _ hx), (h'.standIn (h.settled x hx)).2,
          standIn_of_isActive hactive, ite_self]
      · simp only [hx, if_false, List.mem_append, false_or]
    simp only [h'.holds, h.holds]
    constructor
    · rintro ⟨_, _, ⟨p', c', hold, rfl, rfl⟩, rfl, rfl⟩
      exact ⟨p', c', hold, (hbecome p').symm, (hbecome c').symm⟩
    · rintro ⟨p', c', hold, rfl, rfl⟩
      exact ⟨_, _, ⟨p', c', hold, rfl, rfl⟩, hbecome p', hbecome c'⟩
  registers := by
    obtain ⟨new, hnew, hregisters⟩ := h.registers
    obtain ⟨new', hnew', hregisters'⟩ := h'.registers
    refine ⟨new ++ new', List.append_subset.2 ⟨List.subset_append_of_subset_left ys hnew,
      List.subset_append_of_subset_right xs hnew'⟩, hregisters.trans hregisters' fun r name hname => ?_⟩
    rwa [h'.relinked.name?]
  settled id hid := by
    rcases List.mem_append.1 hid with hid | hid
    · exact (h'.standIn (h.settled id hid)).1
    · exact h'.settled id hid
  marked id := (h'.marked id).trans (h.marked id)
  statics := h'.statics.trans h.statics

theorem bare (h : Merged ids l l') (hl' : l'.InUse) (hid : id ∈ ids) (hgone : l'.standIn id ≠ id) :
    ∃ m, l'.graph.find? id = some m ∧ m.links = [] ∧ m.parents = [] := by
  -- what stands for a machine is active, and an active machine stands for itself
  have hfree : ∀ x, l'.become ids x ≠ id := by
    intro x
    unfold become
    split
    · rename_i hx
      rintro rfl
      exact hgone (standIn_of_isActive ((h.settled x hx).isActive_standIn hl'))
    · rename_i hx
      rintro rfl
      exact hx hid
  obtain ⟨name, hname, -⟩ := h.settled id hid
  obtain ⟨m, hm⟩ := Graph.contains_iff.1 (Graph.contains_of_name? hname)
  refine ⟨m, hm, List.eq_nil_iff_forall_not_mem.2 fun c hc => ?_, List.eq_nil_iff_forall_not_mem.2 fun link hlink => ?_⟩
  · obtain ⟨i, hi⟩ := Machine.mem_links_iff.1 hc
    obtain ⟨p', -, -, hp, -⟩ := (h.holds id i c).1 ⟨m, hm, hi⟩
    exact hfree p' hp
  · have hold := (hl'.sound.graph.links.holds_iff link.parent link.partition id).2 ⟨m, hm, hlink⟩
    obtain ⟨-, c', -, -, hc⟩ := (h.holds _ _ _).1 hold
    exact hfree c' hc

theorem length_instances (h : Merged ids l l') (name : String) :
    (l'.instances name).length =
      if l.instances name = [] ∧ ∃ id ∈ ids, l.graph.name? id = some name then 1
      else (l.instances name).length := by
  obtain ⟨new, hnew, hregisters⟩ := h.registers
  by_cases hnone : l.instances name = []
  · by_cases hid : ∃ id ∈ ids, l.graph.name? id = some name
    · rw [if_pos ⟨hnone, hid⟩]
      obtain ⟨id, hid, hname⟩ := hid
      obtain ⟨name', hname', hne⟩ := h.settled id hid
      obtain rfl : name = name' := Option.some.inj (hname.symm.trans ((h.relinked.name? id).symm.trans hname'))
      obtain ⟨r, hr, hrname⟩ := hregisters.exists_mem hnone hne
      rw [(hregisters.instances_of_mem hr hrname).2]
      rfl
    · rw [if_neg (fun h => hid h.2), hnone]
      refine congrArg List.length (by_contra fun hne => hid ?_)
      obtain ⟨r, hr, hrname⟩ := hregisters.exists_mem hnone hne
      exact ⟨r, hnew hr, (h.relinked.name? r).symm.trans hrname⟩
  · rw [if_neg (fun h => hnone h.1), hregisters.instances_of_ne_nil hnone]

end Merged

/-! ## One turn -/

theorem become_singleton (id x : MachineId) : l.become [id] x = redirect (l.standIn id) id x := by
  unfold become redirect
  by_cases h : x = id
  · subst h
    simp
  · simp [h]

theorem merged_of_isActive (hgraph : l'.graph = l.graph) (hid : l'.isActive id = true)
    (hregisters : ∃ new ⊆ [id], Registers l l' new) (hmarked : ∀ x, l'.Marked x ↔ l.Marked x)
    (hstatics : l'.statics = l.statics) : Merged [id] l l' where
  relinked := hgraph ▸ .refl _
  holds p i c := by
    have hsame : ∀ x, l'.become [id] x = x := by
      intro x
      rw [become_singleton, standIn_of_isActive hid, redirect]
      split
      · rename_i h
        exact h.symm
      · rfl
    simp [hsame, hgraph]
  registers := hregisters
  settled x hx := List.mem_singleton.1 hx ▸ settled_of_isActive hid
  marked := hmarked
  statics := hstatics

theorem merged_register (hname : l.graph.name? id = some name) (hnone : l.instances name = []) :
    (register name id l).isActive id = true ∧ Merged [id] l (register name id l) := by
  have hmem : id ∈ (register name id l).instances name := by
    rw [instances_register_of_nil hnone, if_pos rfl]
    exact List.mem_singleton_self id
  have hactive : (register name id l).isActive id = true :=
    (isActive_of_name? (by rwa [graph_register])).2 hmem
  refine ⟨hactive, merged_of_isActive (graph_register _ _ _) hactive ⟨[id], List.Subset.refl _, ?_⟩
    (fun _ => marked_register) (statics_register _ _ _)⟩
  exact Registers.one hname hnone

theorem Folded.merged (h : Folded keep id l l') (hl : l.InUse) (hid : l.isActive id = false)
    (hname : l.graph.name? id = some name) (hfirst : l.firstInstance? name = some keep) : Merged [id] l l' := by
  have habsent : ∀ other, id ∉ l.instances other := by
    intro other hmem
    rw [(isActive_of_name? (hl.name?_of_mem_instances hmem)).2 hmem] at hid
    cases hid
  have hentries : ∀ other, l'.entries other = l.entries other := by
    intro other
    rw [h.entries, List.filter_eq_self]
    intro e he
    exact decide_eq_true fun heq => habsent other (mem_instances.2 ⟨e, he, heq⟩)
  have hinstances : ∀ other, l'.instances other = l.instances other := fun other => by
    rw [instances, instances, hentries]
  have horder : l'.order = l.order := by
    rw [h.order, List.filter_eq_self]
    rintro x hx
    refine decide_eq_true ?_
    rintro rfl
    obtain ⟨other, hother⟩ := (hl.views.listed x).1 hx
    exact habsent other hother
  have hname' := (h.relinked.name? id).trans hname
  have hstand : l'.standIn id = keep :=
    (standIn_congr hname hname' (hinstances name)).trans (standIn_of_first hid hname hfirst)
  refine ⟨h.relinked, fun p i c => ?_, ⟨[], List.nil_subset _, .nil hinstances horder⟩, fun x hx => ?_, fun x => ?_,
    h.statics⟩
  · simp only [h.holds, become_singleton, hstand]
  · rw [List.mem_singleton.1 hx]
    exact ⟨name, hname', by rw [hinstances]; exact List.ne_nil_of_mem (List.mem_of_head? hfirst)⟩
  · simp only [Marked, hentries]

theorem Working.exists_unify (h : l.Working) (hne : keep ≠ id) (hkeep : l.graph.contains keep = true)
    (hid : l.graph.contains id = true) : ∃ l', unify keep id l = .ok () l' ∧ Folded keep id l l' := by
  obtain ⟨g, hfold, hg, hrelinked, hholds⟩ := h.sound.graph.exists_fold h.ordered hne hkeep hid
  obtain ⟨m, hm⟩ := Graph.contains_iff.1 ((hrelinked.contains id).trans hid)
  have hname : l.graph.name? id = some m.name := (hrelinked.name? id).symm.trans (Graph.name?_of_find? hm)
  refine ⟨drop m.name id { l with graph := g }, ?_, folded_drop h.filed hname hne hg hrelinked hholds⟩
  rw [unify_eq, if_neg hne, Outcome.bind_eq_of_ok (changeGraph_of_ok hfold), ask_bind (Graph.name_of_find? hm)]
  rfl

/-- A live machine becomes what stands for it, and that does not change with its turn. -/
theorem Working.exists_merge (h : l.Working) (hid : l.graph.contains id = true) :
    ∃ l', merge id l = .ok (l.standIn id) l' ∧ l'.standIn id = l.standIn id ∧ Merged [id] l l' := by
  obtain ⟨m, hm⟩ := Graph.contains_iff.1 hid
  have hname := Graph.name?_of_find? hm
  rw [merge_eq, get_bind]
  cases hactive : l.isActive id with
  | true =>
    refine ⟨l, ?_, rfl, merged_of_isActive rfl hactive ⟨[], List.nil_subset _, .nil (fun _ => rfl) rfl⟩
      (fun _ => Iff.rfl) rfl⟩
    rw [standIn_of_isActive hactive]
    rfl
  | false =>
    simp only [Bool.false_eq_true, if_false]
    rw [ask_bind (Graph.name_of_find? hm), get_bind]
    cases hfirst : l.firstInstance? m.name with
    | some keep =>
      have hmem : keep ∈ l.instances m.name := List.mem_of_head? hfirst
      have hne : keep ≠ id := by
        rintro rfl
        rw [(isActive_of_name? hname).2 hmem] at hactive
        cases hactive
      have hkeep := Graph.contains_of_name? (h.name?_of_mem_instances hmem)
      obtain ⟨l', hunify, hfolded⟩ := h.exists_unify hne hkeep hid
      have hmerged := hfolded.merged h.toInUse hactive hname hfirst
      refine ⟨l', ?_, (hmerged.standIn ⟨m.name, hname, List.ne_nil_of_mem hmem⟩).2, hmerged⟩
      rw [standIn_of_first hactive hname hfirst]
      exact Outcome.bind_eq_of_ok hunify
    | none =>
      have hnone : l.instances m.name = [] := List.head?_eq_none_iff.1 hfirst
      obtain ⟨hactive', hmerged⟩ := merged_register hname hnone
      rw [standIn_of_none hname hfirst]
      exact ⟨register m.name id l, Outcome.bind_eq_of_ok (addActive_one hname), standIn_of_isActive hactive', hmerged⟩

/-! ## The run -/

/-- Every machine is brought in, and becomes what stood for it when its turn came and still does at the end. -/
theorem Working.exists_mergeActive (h : l.Working) (hids : ∀ id ∈ ids, l.graph.contains id = true) :
    ∃ l', mergeActive ids l = .ok (ids.map l'.standIn) l' ∧ l'.Working ∧ Merged ids l l' ∧
      ∀ (j : Nat) (id : MachineId), ids[j]? = some id → ∃ earlier before,
        mergeActive (ids.take j) l = .ok earlier before ∧ l'.standIn id = before.standIn id := by
  induction ids generalizing l with
  | nil =>
    refine ⟨l, rfl, h, ?_, fun j id hid => nomatch hid⟩
    refine ⟨.refl _, fun p i c => ?_, ⟨[], List.nil_subset _, .nil (fun _ => rfl) rfl⟩,
      fun _ hid => (List.not_mem_nil hid).elim, fun _ => Iff.rfl, rfl⟩
    simp [become]
  | cons id ids ih =>
    obtain ⟨hid, hids⟩ := List.forall_mem_cons.1 hids
    obtain ⟨l₁, hmerge, hstand, hone⟩ := h.exists_merge hid
    have hl₁ : l₁.Working := ((changes_merge id).of_ok hmerge).working h
    obtain ⟨l', hrest, hl', hmerged, hturns⟩ := ih hl₁ fun other hother => (hone.relinked.contains other).trans
      (hids other hother)
    have hlast : l'.standIn id = l.standIn id :=
      (hmerged.standIn (hone.settled id List.mem_cons_self)).2.trans hstand
    have hrun : ∀ {answers : List MachineId} {l₂ : Lexicon} {ids : List MachineId},
        mergeActive ids l₁ = .ok answers l₂ → mergeActive (id :: ids) l = .ok (l.standIn id :: answers) l₂ := by
      intro answers l₂ ids hids
      rw [mergeActive, Outcome.bind_eq_of_ok hmerge, Outcome.bind_eq_of_ok hids]
      rfl
    refine ⟨l', ?_, hl', hone.trans hmerged hl₁.toInUse, fun j other hother => ?_⟩
    · rw [hrun hrest, List.map_cons, hlast]
    · cases j with
      | zero =>
        obtain rfl : id = other := Option.some.inj hother
        exact ⟨[], l, rfl, hlast⟩
      | succ j =>
        obtain ⟨earlier, before, hbefore, hsame⟩ := hturns j other hother
        exact ⟨_, before, hrun hbefore, hsame⟩

/-- Bringing live machines into the working set of a lexicon that can be reached, whatever repetitions, equal names
and links there are among them: each becomes what stands for it when its turn comes, an active machine; each name that
had no instance and is among theirs gets one, and no other does; and a machine that became another one has no links
left, as the links are those of before with each machine read as what stands for it. -/
theorem mergeActive_folds (h : l.Reachable) (hlive : ∀ id ∈ l.order, l.graph.contains id = true)
    (hids : ∀ id ∈ ids, l.graph.contains id = true) :
    ∃ answers l', mergeActive ids l = .ok answers l' ∧ answers.length = ids.length ∧
      (∀ (j : Nat) (id : MachineId), ids[j]? = some id → ∃ earlier before,
        mergeActive (ids.take j) l = .ok earlier before ∧
        answers[j]? = some (before.standIn id) ∧ l'.isActive (before.standIn id) = true) ∧
      (∀ name, (l'.instances name).length =
        if l.instances name = [] ∧ ∃ id ∈ ids, l.graph.name? id = some name then 1
        else (l.instances name).length) ∧
      (∀ id, l.isActive id = true → l'.isActive id = true) ∧
      (∀ (j : Nat) (id : MachineId), ids[j]? = some id → answers[j]? ≠ some id →
        ∃ m, l'.graph.find? id = some m ∧ m.links = [] ∧ m.parents = []) ∧
      Merged ids l l' := by
  obtain ⟨l', hrun, hl', hmerged, hturns⟩ := (h.working hlive).exists_mergeActive hids
  have hanswer : ∀ (j : Nat) (id : MachineId), ids[j]? = some id → (ids.map l'.standIn)[j]? = some (l'.standIn id) := by
    intro j id hid
    rw [List.getElem?_map, hid]
    rfl
  refine ⟨_, l', hrun, List.length_map _, fun j id hid => ?_, hmerged.length_instances, fun id => hmerged.isActive,
    fun j id hid hgone => ?_, hmerged⟩
  · obtain ⟨earlier, before, hbefore, hsame⟩ := hturns j id hid
    refine ⟨earlier, before, hbefore, hsame ▸ hanswer j id hid, ?_⟩
    rw [← hsame]
    exact (hmerged.settled id (List.mem_of_getElem? hid)).isActive_standIn hl'.toInUse
  · refine hmerged.bare hl'.toInUse (List.mem_of_getElem? hid) fun hstand => hgone ?_
    rw [hanswer j id hid, hstand]

/-- One active machine, another of its name, two of a second name and one of a third; the two and the other hold each
other. -/
def flock : Lexicon :=
  Lexicon.empty.replay [.create "a" none, .create "b" none, .create "b" none, .create "c" none, .create "a" none,
    .append ⟨1, 1⟩ ⟨2, 1⟩ 0, .append ⟨2, 1⟩ ⟨1, 1⟩ 1, .append ⟨2, 1⟩ ⟨4, 1⟩ 0, .append ⟨4, 1⟩ ⟨2, 1⟩ 2,
    .append ⟨3, 1⟩ ⟨4, 1⟩ 1, .addActive [⟨0, 1⟩]]

/-- The machines that `flock` brings in: one twice, and all that are linked. -/
def comers : List MachineId :=
  [⟨1, 1⟩, ⟨2, 1⟩, ⟨4, 1⟩, ⟨2, 1⟩, ⟨3, 1⟩]

theorem mergeActive_folds_flock :
    flock.Reachable ∧ (∀ id ∈ flock.order, flock.graph.contains id = true) ∧
    (∀ id ∈ comers, flock.graph.contains id = true) ∧
    ∃ l', mergeActive comers flock = .ok [⟨1, 1⟩, ⟨1, 1⟩, ⟨0, 1⟩, ⟨1, 1⟩, ⟨3, 1⟩] l' ∧
      (∀ name, (l'.instances name).length =
        if flock.instances name = [] ∧ ∃ id ∈ comers, flock.graph.name? id = some name then 1
        else (flock.instances name).length) ∧
      l'.isActive ⟨0, 1⟩ = true ∧
      (∃ m, l'.graph.find? ⟨2, 1⟩ = some m ∧ m.links = [] ∧ m.parents = []) ∧ Merged comers flock l' := by
  have hflock : flock.Reachable := ⟨_, rfl⟩
  have hlive : ∀ id ∈ flock.order, flock.graph.contains id = true := by decide +kernel
  have hcomers : ∀ id ∈ comers, flock.graph.contains id = true := by decide +kernel
  obtain ⟨l', hok⟩ := Outcome.exists_of_answer? (r := mergeActive comers flock)
    (a := [⟨1, 1⟩, ⟨1, 1⟩, ⟨0, 1⟩, ⟨1, 1⟩, ⟨3, 1⟩]) (by decide +kernel)
  obtain ⟨answers, l'', hrun, -, -, hcount, hkept, hbare, hmerged⟩ := mergeActive_folds hflock hlive hcomers
  cases hok.symm.trans hrun
  exact ⟨hflock, hlive, hcomers, l', hok, hcount, hkept ⟨0, 1⟩ (by decide +kernel),
    hbare 1 ⟨2, 1⟩ rfl (by decide), hmerged⟩

end MeaningGraph.Lexicon
