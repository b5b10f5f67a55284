/-
# Operations that cannot fail

Every operation on a lexicon fails when it comes upon a stale handle or a machine that is not active.  A lexicon
is ready when it holds no such handle: its definitions stand, and its active machines are live.  No change takes
that away (`Changes.ready`), so from a ready lexicon

    addActive, mergeActive    answer, for live machines
    expand                    answers, for active machines
    activate                  answers

whatever the definitions look like.  Each is a chain of steps; that a step answers is read off the steps before,
which have made and linked machines but freed none.
-/
import MeaningGraph.Proofs.Lexicon.Growth
import MeaningGraph.Proofs.Lexicon.Standing
import MeaningGraph.Proofs.Lexicon.Unify

namespace MeaningGraph

/-- The children of partitions 1 and up. -/
def Machine.arguments (m : Machine) : List MachineId :=
  (m.parts.drop 1).flatten

theorem Graph.Sound.contains_argument {g : Graph} {id c : MachineId} {m : Machine} (h : g.Sound)
    (hm : g.find? id = some m) (hc : c ∈ m.arguments) : g.contains c = true := by
  obtain ⟨part, hpart, hc⟩ := List.mem_flatten.1 hc
  obtain ⟨i, hi⟩ := List.mem_iff_getElem?.1 (List.mem_of_mem_drop hpart)
  exact h.contains_child ⟨m, hm, Machine.mem_part_iff.2 ⟨part, hi, hc⟩⟩

namespace Lexicon

open Outcome

variable {α : Type} {l l' : Lexicon} {id source definition : MachineId} {ids : List MachineId} {name : String}
  {p : Nat}

/-- The lexicon is in order, its definitions stand, and its active machines are live. -/
structure Ready (l : Lexicon) : Prop where
  sound : l.Sound
  filed : l.Filed
  listed : l.Listed
  ordered : l.graph.OrderedParents
  standing : l.Standing
  live : ∀ id ∈ l.order, l.graph.contains id = true

theorem mem_order_register {other : MachineId} (h : other ∈ (register name id l).order) :
    other ∈ l.order ∨ other = id := by
  unfold register at h
  split at h
  · exact .inl h
  · exact (List.mem_append.1 h).imp_right List.mem_singleton.1

theorem Change.live (h : Change l l') (hl : l.Sound) (hlive : ∀ id ∈ l.order, l.graph.contains id = true) :
    ∀ id ∈ l'.order, l'.graph.contains id = true := by
  have hkept : ∀ id ∈ l.order, l'.graph.contains id = true := fun id hid => h.contains hl (hlive id hid)
  rcases h.cases_active with ⟨-, horder⟩ | ⟨name, other, hname, rfl⟩ | ⟨name, other, -, rfl⟩ | ⟨name, other, -, rfl⟩
  · rwa [horder]
  · intro id hid
    rcases mem_order_register hid with hid | rfl
    · exact hkept id hid
    · rw [graph_register]
      exact Graph.contains_of_name? hname
  · exact hkept
  · exact fun id hid => hkept id (List.mem_of_mem_filter hid)

/-- No change makes a ready lexicon unready. -/
theorem Change.ready (h : Change l l') (hl : l.Ready) : l'.Ready :=
  have hevolves := h.evolves hl.sound
  ⟨hevolves.sound, hevolves.filed hl.filed, h.listed hl.filed hl.listed, h.orderedParents hl.sound hl.ordered,
    h.standing hl.sound hl.standing, h.live hl.sound hl.live⟩

theorem Changes.ready (h : Changes l l') (hl : l.Ready) : l'.Ready := by
  induction h with
  | refl => exact hl
  | tail _ h ih => exact h.ready ih

theorem Gains.ready (h : Gains l l') (hl : l.Ready) : l'.Ready :=
  h.changes.ready hl

theorem Gains.contains (h : Gains l l') (hl : l.Ready) (hid : l.graph.contains id = true) :
    l'.graph.contains id = true :=
  h.changes.contains hl.sound hid

theorem Gains.order_grows (h : Gains l l') : l.order <+: l'.order := by
  induction h with
  | refl => exact List.prefix_rfl
  | tail _ h ih =>
    rcases h.cases_active with ⟨-, horder⟩ | ⟨name, other, -, rfl⟩ | ⟨name, other, -, rfl⟩
    · rwa [horder]
    · exact ih.trans (order_register ..)
    · exact ih

theorem Gains.mem_order (h : Gains l l') (hid : id ∈ l.order) : id ∈ l'.order :=
  h.order_grows.subset hid

/-! ## Registering and flagging -/

theorem attains_addActive (hids : ∀ id ∈ ids, l.graph.contains id = true) :
    Attains Gains (fun _ _ => True) l (addActive ids l) := by
  have hok : ∃ l', addActive ids l = .ok () l' := by
    induction ids generalizing l with
    | nil => exact ⟨l, rfl⟩
    | cons id ids ih =>
      obtain ⟨hid, hids⟩ := List.forall_mem_cons.1 hids
      obtain ⟨m, hm⟩ := Graph.contains_iff.1 hid
      obtain ⟨l', hl'⟩ := ih (l := register m.name id l) (by rwa [graph_register])
      refine ⟨l', ?_⟩
      rw [addActive, ask_bind (Graph.name_of_find? hm)]
      exact hl'
  obtain ⟨l', hok⟩ := hok
  exact attains_of_within (gains_addActive ids) hok trivial

theorem attains_addActive_flatten {chunks : List (List MachineId)}
    (hlive : ∀ chunk ∈ chunks, ∀ id ∈ chunk, l.graph.contains id = true) :
    Attains Gains (fun _ _ => True) l (addActive chunks.flatten l) := by
  refine attains_addActive fun id hid => ?_
  obtain ⟨chunk, hchunk, hid⟩ := List.mem_flatten.1 hid
  exact hlive chunk hchunk id hid

theorem Sound.attains_create (h : l.Sound) (name : String) (control : Option Control) :
    Attains Gains (fun id l' => l'.graph.contains id = true) l (create name control l) :=
  attains_of_within (gains_create name control) rfl
    ((h.graph.slots.contains_create name control).2 (.inl rfl))

theorem attains_append {parent child : MachineId} (hparent : l.graph.contains parent = true)
    (hchild : l.graph.contains child = true) (p : Nat) :
    Attains Gains (fun _ _ => True) l (changeGraph (·.append parent child p) l) := by
  obtain ⟨g, happend⟩ := Graph.exists_append hparent hchild p
  exact attains_of_within (gains_append parent child p) (changeGraph_of_ok happend) trivial

theorem Ready.isActive (h : l.Ready) (hid : id ∈ l.order) : l.isActive id = true :=
  (h.listed.mem_order_iff h.filed (h.live id hid)).1 hid

theorem Ready.attains_setExpanded (h : l.Ready) (hid : id ∈ l.order) :
    Attains Gains (fun _ _ => True) l (setExpanded id l) := by
  obtain ⟨name, hname, e, he, hmachine⟩ := isActive_iff.1 (h.isActive hid)
  obtain ⟨m, hm, rfl⟩ := Option.map_eq_some_iff.1 hname
  have hany : (l.entries m.name).any (·.machine = id) = true :=
    List.any_eq_true.2 ⟨e, he, decide_eq_true hmachine⟩
  have hok : ∃ l', setExpanded id l = .ok () l' := by
    rw [setExpanded, ask_bind (Graph.name_of_find? hm), get_bind, if_pos hany]
    exact ⟨_, rfl⟩
  obtain ⟨l', hok⟩ := hok
  exact attains_of_within (gains_setExpanded id) hok trivial

/-! ## Expanding -/

theorem Ready.contains_firstInstance? (h : l.Ready) (hfirst : l.firstInstance? name = some id) :
    l.graph.contains id = true :=
  h.live id ((h.listed id).2 ⟨name, List.mem_of_head? hfirst⟩)

theorem exists_firstNamed (hids : ∀ id ∈ ids, l.graph.contains id = true) (name : String) :
    ∃ found, l.firstNamed name ids = .ok found := by
  induction ids with
  | nil => exact ⟨none, rfl⟩
  | cons id ids ih =>
    obtain ⟨hid, hids⟩ := List.forall_mem_cons.1 hids
    obtain ⟨m, hm⟩ := Graph.contains_iff.1 hid
    rw [firstNamed, Outcome.bind_of_ok (Graph.name_of_find? hm)]
    by_cases heq : m.name = name
    · exact ⟨some id, if_pos heq⟩
    · rw [if_neg heq]
      exact ih hids

theorem Ready.attains_chooseTarget (h : l.Ready) (hid : l.graph.contains id = true)
    (hsource : l.graph.contains source = true) (hname : l.graph.name? source = some name) (p : Nat) :
    Attains Gains (fun target l' => l'.graph.contains target = true) l (chooseTarget id p source name l) := by
  obtain ⟨m, hm⟩ := Graph.contains_iff.1 hid
  have hchildren : ∀ c ∈ m.part p, l.graph.contains c = true := fun c hc =>
    h.sound.graph.contains_child ⟨m, hm, hc⟩
  obtain ⟨found, hfound⟩ := exists_firstNamed hchildren name
  have hchild : l.childNamed id p name = .ok found := by
    rw [childNamed, Outcome.bind_of_ok (Graph.get_of_find? hm)]
    exact hfound
  have hok : ∃ target l', chooseTarget id p source name l = .ok target l' := by
    rw [chooseTarget, ask_bind hchild]
    cases found with
    | some child => exact ⟨child, l, rfl⟩
    | none =>
      obtain ⟨copy, g, hcopy, -⟩ := h.sound.graph.copied hsource
      refine ⟨copy, { l with graph := g }, ?_⟩
      change grow (·.deepCopy source) l = _
      rw [grow, hcopy]
  obtain ⟨target, l', hok⟩ := hok
  refine attains_of_within (gains_chooseTarget id p source name) hok ?_
  exact Graph.contains_of_name? (chooseTarget_ok h.sound hname hok).1

theorem Ready.attains_represent (h : l.Ready) (hid : l.graph.contains id = true)
    (hsource : l.graph.contains source = true) (p : Nat) :
    Attains Gains (fun _ _ => True) l (represent id p source l) := by
  obtain ⟨m, hm⟩ := Graph.contains_iff.1 hsource
  rw [represent_eq, ask_bind (Graph.name_of_find? hm), get_bind]
  cases hfirst : l.firstInstance? m.name with
  | some target =>
    have htarget := h.contains_firstInstance? hfirst
    exact (attains_append hid htarget p).bind fun _ _ _ _ => .pure trivial
  | none =>
    refine (h.attains_chooseTarget hid hsource (Graph.name?_of_find? hm) p).bind fun target l₁ h₁ htarget => ?_
    have hadd : Attains Gains (fun _ _ => True) l₁ (addActive [target] l₁) :=
      attains_addActive (List.forall_mem_singleton.2 htarget)
    refine hadd.bind fun _ l₂ h₂ _ => ?_
    have hid₂ := h₂.contains (h₁.ready h) (h₁.contains h hid)
    have htarget₂ := h₂.contains (h₁.ready h) htarget
    exact (attains_append hid₂ htarget₂ p).bind fun _ _ _ _ => .pure trivial

theorem Ready.attains_representAll {links : List (Nat × MachineId)} (h : l.Ready)
    (hid : l.graph.contains id = true) (hlinks : ∀ link ∈ links, l.graph.contains link.2 = true) :
    Attains Gains (fun _ _ => True) l (representAll id links l) := by
  induction links generalizing l with
  | nil => exact .pure trivial
  | cons link links ih =>
    obtain ⟨hlink, hlinks⟩ := List.forall_mem_cons.1 hlinks
    refine (h.attains_represent hid hlink link.1).bind fun _ l₁ h₁ _ => ?_
    have hrest := ih (h₁.ready h) (h₁.contains h hid) fun other hother => h₁.contains h (hlinks other hother)
    exact hrest.bind fun _ _ _ _ => .pure trivial

theorem Ready.contains_static? (h : l.Ready) (hdefinition : l.static? name = some definition) :
    l.graph.contains definition = true :=
  h.sound.standing_iff.1 h.standing definition (Table.mem_values_of_find? hdefinition)

theorem Ready.attains_expand (h : l.Ready) (hid : id ∈ l.order) :
    Attains Gains (fun _ _ => True) l (expand id l) := by
  have hlive := h.live id hid
  obtain ⟨m, hm⟩ := Graph.contains_iff.1 hlive
  rw [expand_eq, ask_bind (Graph.name_of_find? hm), get_bind, if_pos (h.isActive hid), expandActive, get_bind]
  cases hstatic : l.static? m.name with
  | none => exact (h.attains_setExpanded hid).bind fun _ _ _ _ => .pure trivial
  | some definition =>
    obtain ⟨d, hd⟩ := Graph.contains_iff.1 (h.contains_static? hstatic)
    simp only
    rw [ask_bind (Graph.get_of_find? hd)]
    have hlinks : ∀ link ∈ Graph.numberedLinks d, l.graph.contains link.2 = true := fun link hlink =>
      h.sound.graph.contains_child ⟨d, hd, Graph.mem_numberedLinks.1 hlink⟩
    refine (h.attains_representAll hlive hlinks).bind fun _ l₁ h₁ _ => ?_
    exact ((h₁.ready h).attains_setExpanded (h₁.mem_order hid)).bind fun _ _ _ _ => .pure trivial

/-! ## Activating -/

theorem exists_allNamesActive (hids : ∀ id ∈ ids, l.graph.contains id = true) :
    ∃ active, l.allNamesActive ids = .ok active := by
  induction ids with
  | nil => exact ⟨true, rfl⟩
  | cons id ids ih =>
    obtain ⟨hid, hids⟩ := List.forall_mem_cons.1 hids
    obtain ⟨m, hm⟩ := Graph.contains_iff.1 hid
    rw [allNamesActive, Outcome.bind_of_ok (Graph.name_of_find? hm)]
    by_cases hactive : l.isNameActive m.name = true
    · rw [if_pos hactive]
      exact ih hids
    · exact ⟨false, if_neg hactive⟩

theorem Ready.attains_promote (h : l.Ready) (hdefinition : l.graph.contains definition = true) (name : String) :
    Attains Gains (fun _ _ => True) l (promote name definition l) := by
  obtain ⟨m, hm⟩ := Graph.contains_iff.1 hdefinition
  have harguments : ∀ c ∈ (m.parts.drop 1).flatten, l.graph.contains c = true := fun _ hc =>
    h.sound.graph.contains_argument hm hc
  rw [promote_eq, ask_bind (Graph.get_of_find? hm)]
  split
  · exact .pure trivial
  · obtain ⟨active, hactive⟩ := exists_allNamesActive harguments
    rw [ask_bind hactive]
    cases active with
    | false => exact .pure trivial
    | true =>
      refine (h.sound.attains_create name m.control).bind fun id l₁ h₁ hid => ?_
      exact (attains_addActive (List.forall_mem_singleton.2 hid)).bind fun _ _ _ _ => .pure trivial

theorem Ready.attains_promoteAll {entries : List (String × MachineId)} (h : l.Ready)
    (hentries : ∀ e ∈ entries, l.graph.contains e.2 = true) :
    Attains Gains (fun _ _ => True) l (promoteAll entries l) := by
  induction entries generalizing l with
  | nil => exact .pure trivial
  | cons e entries ih =>
    obtain ⟨he, hentries⟩ := List.forall_mem_cons.1 hentries
    refine (h.attains_promote he e.1).bind fun _ l₁ h₁ _ => ?_
    have hrest := ih (h₁.ready h) fun other hother => h₁.contains h (hentries other hother)
    exact hrest.bind fun _ _ _ _ => .pure trivial

theorem Ready.attains_activate (h : l.Ready) : Attains Gains (fun _ _ => True) l (activate l) := by
  rw [activate, get_bind]
  refine h.attains_promoteAll fun e he => ?_
  exact h.sound.standing_iff.1 h.standing e.2 (List.mem_map_of_mem (List.mem_of_mem_filter he))

/-! ## Merging -/

theorem Ready.exists_unify (h : l.Ready) {keep merge : MachineId} (hkeep : l.graph.contains keep = true)
    (hmerge : l.graph.contains merge = true) : ∃ l', unify keep merge l = .ok () l' := by
  rw [unify_eq]
  split
  · exact ⟨l, rfl⟩
  · rename_i hne
    obtain ⟨g, hfold, -, hrelinked, -⟩ := h.sound.graph.exists_fold h.ordered hne hkeep hmerge
    obtain ⟨m, hm⟩ := Graph.contains_iff.1 ((hrelinked.contains merge).trans hmerge)
    refine ⟨drop m.name merge { l with graph := g }, ?_⟩
    rw [Outcome.bind_eq_of_ok (changeGraph_of_ok hfold), ask_bind (Graph.name_of_find? hm)]
    rfl

theorem Ready.attains_merge (h : l.Ready) (hid : l.graph.contains id = true) :
    Attains Changes (fun _ _ => True) l (merge id l) := by
  have hok : ∃ new l', merge id l = .ok new l' := by
    obtain ⟨m, hm⟩ := Graph.contains_iff.1 hid
    rw [merge_eq, get_bind]
    split
    · exact ⟨id, l, rfl⟩
    · rw [ask_bind (Graph.name_of_find? hm), get_bind]
      cases hfirst : l.firstInstance? m.name with
      | some existing =>
        obtain ⟨l', hunify⟩ := h.exists_unify (h.contains_firstInstance? hfirst) hid
        exact ⟨existing, l', Outcome.bind_eq_of_ok hunify⟩
      | none =>
        obtain ⟨_, l', hadd, -⟩ := attains_addActive (List.forall_mem_singleton.2 hid)
        exact ⟨id, l', Outcome.bind_eq_of_ok hadd⟩
  obtain ⟨new, l', hok⟩ := hok
  exact attains_of_within (changes_merge id) hok trivial

theorem Ready.attains_mergeActive (h : l.Ready) (hids : ∀ id ∈ ids, l.graph.contains id = true) :
    Attains Changes (fun _ _ => True) l (mergeActive ids l) := by
  induction ids generalizing l with
  | nil => exact .pure trivial
  | cons id ids ih =>
    obtain ⟨hid, hids⟩ := List.forall_mem_cons.1 hids
    refine (h.attains_merge hid).bind fun _ l₁ h₁ _ => ?_
    have hrest := ih (h₁.ready h) fun other hother => h₁.contains h.sound (hids other hother)
    exact hrest.bind fun _ _ _ _ => .pure trivial

/-! ## Clearing -/

/-- After clearing the lexicon is ready, if no definition was stale or active. -/
theorem Reachable.ready_clearActive (h : l.Reachable)
    (hstatics : ∀ id ∈ l.statics.values, l.graph.contains id = true ∧ l.isActive id = false) :
    l.clearActive.Ready := by
  have hstanding : l.Standing := h.sound.standing_iff.2 fun id hid => (hstatics id hid).1
  have hcovered : l.Covered := by
    intro id hid horder
    obtain ⟨hlive, hidle⟩ := hstatics id hid
    rw [(h.listed.mem_order_iff h.filed hlive).1 horder] at hidle
    cases hidle
  exact ⟨h.sound.evolves_clearActive.sound, filed_of_active_eq_empty rfl, listed_of_nil rfl rfl,
    h.orderedParents.retain _, (h.sound.standing_clearActive_iff hstanding).2 hcovered,
    fun _ hid => (List.not_mem_nil hid).elim⟩

end Lexicon

end MeaningGraph
