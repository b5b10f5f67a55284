/-
# What an accepted sequence comes to

The automaton that accepts a sequence and the search that gives its machines arguments know nothing of each
other.  They agree: machines that match the arguments one to one can be given arguments, whichever choices the
search tries first (`exists_assign`), and so can the machines that are left when the token is taken out, be it
the one in front or one of those that matched (`exists_gives_of_recognised`).

    seq              token?  others                accepted by the automaton
    others           slots                         found by the search, each slot once
    verb             others, each in the partition of its slot, and the control

`Joined` sets out what linking leaves: the control of the verb, the machines behind those that stood in its
partitions, and nothing else.  Of live machines none fails.  A stale machine can stand behind the token, where no
name was looked at, and be taken by an argument that wants a machine *not* to be something; then the machines
before it are linked and stay so.
-/
import MeaningGraph.Proofs.Graph.Fold
import MeaningGraph.Proofs.Lexicon.Changes
import MeaningGraph.Proofs.Rule.Linked

namespace MeaningGraph

open Lexicon (changeGraph changeGraph_of_ok)

/-! ## Links behind those that stand -/

namespace Graph

variable {g g' g'' : Graph} {id verb c : MachineId} {control : Option Control} {i : Nat}
  {places : List (MachineId × Nat)}

/-- Puts a machine at the end, unless it is there. -/
def addNew (held : List MachineId) (c : MachineId) : List MachineId :=
  if c ∈ held then held else held ++ [c]

/-- The verb has the control; the machines stand in the partitions, in their order behind those that stood
there; and all else is as it was. -/
structure Joined (verb : MachineId) (control : Option Control) (places : List (MachineId × Nat))
    (g g' : Graph) : Prop where
  contains : ∀ id, g'.contains id = g.contains id
  name? : ∀ id, g'.name? id = g.name? id
  control? : ∀ id, g'.control? id = if id = verb then control else g.control? id
  part : ∀ id i, g'.partOf id i =
    if id = verb then ((places.filter (·.2 = i)).map (·.1)).foldl addNew (g.partOf id i) else g.partOf id i
  links : g'.LinksConsistent

theorem partOf_update_of_part (g : Graph) (id : MachineId) {f : Machine → Machine}
    (hf : ∀ m i, (f m).part i = m.part i) (other : MachineId) (i : Nat) :
    (g.update id f).partOf other i = g.partOf other i := by
  have hmap : ((g.update id f).find? other).map (·.part i) = (g.find? other).map (·.part i) :=
    map_find?_update (fun m => hf m i) g id other
  rw [partOf, partOf, hmap]

theorem partOf_append (h : g.append verb c i = .ok g') (id : MachineId) (j : Nat) :
    g'.partOf id j = if id = verb ∧ j = i then addNew (g.partOf id j) c else g.partOf id j := by
  obtain ⟨hverb, -, ⟨hold, rfl⟩ | ⟨hnew, rfl⟩⟩ := append_cases h
  · obtain ⟨m, hm, hmem⟩ := hold
    split
    · rename_i heq
      obtain ⟨rfl, rfl⟩ := heq
      rw [partOf_of_find? hm, addNew, if_pos hmem]
    · rfl
  · obtain ⟨m, hm⟩ := contains_iff.1 hverb
    have hfresh : c ∉ m.part i := fun hmem => hnew ⟨m, hm, hmem⟩
    have hchild : (g.link verb c i).partOf id j = (g.update verb (·.addChild c i)).partOf id j := by
      refine partOf_update_of_part _ c ?_ id j
      exact fun _ _ => rfl
    rw [hchild]
    by_cases hid : id = verb
    · subst hid
      have hm' : (g.update id (·.addChild c i)).find? id = some (m.addChild c i) := by
        rw [find?_update, if_pos rfl, hm]
        rfl
      rw [partOf_of_find? hm', partOf_of_find? hm, Machine.part_addChild]
      by_cases hj : j = i
      · subst hj
        rw [if_pos rfl, if_pos ⟨rfl, rfl⟩, addNew, if_neg hfresh]
      · rw [if_neg hj, if_neg fun heq => hj heq.2]
    · rw [if_neg fun heq => hid heq.1, partOf, find?_update, if_neg hid]
      rfl

theorem Sound.joined_setControl (h : g.Sound) (hset : g.setControl verb control = .ok g') :
    Joined verb control [] g g' := by
  have hlinks := (h.evolves_setControl hset).sound.links
  obtain ⟨hverb, rfl⟩ := setControl_cases hset
  obtain ⟨m, hm⟩ := contains_iff.1 hverb
  refine ⟨fun id => contains_update .., ?_, ?_, ?_, hlinks⟩
  · refine name?_update ?_ g verb
    exact fun _ => rfl
  · intro id
    rw [Graph.control?, find?_update]
    split
    · rw [hm]
      rfl
    · rfl
  · intro id i
    refine (partOf_update_of_part g verb ?_ id i).trans (ite_self _).symm
    exact fun _ _ => rfl

theorem Joined.append (h : Joined verb control places g g') (hsound : g'.Sound)
    (happ : g'.append verb c i = .ok g'') : Joined verb control (places ++ [(c, i)]) g g'' where
  contains id := (contains_append happ).trans (h.contains id)
  name? id := (name?_append happ id).trans (h.name? id)
  control? id := (control?_append happ id).trans (h.control? id)
  links := (hsound.evolves_append happ).sound.links
  part id j := by
    rw [partOf_append happ, h.part]
    by_cases hid : id = verb
    · by_cases hj : j = i
      · subst hj
        simp [hid]
      · simp [hid, hj, Ne.symm hj]
    · simp [hid]

end Graph

open MeaningGraph.Graph (Joined)

namespace VerbRule

variable {r : VerbRule} {arguments : List Argument} {name : String} {l l' : Lexicon} {g : Graph}
  {id verb : MachineId} {ids seq : List MachineId} {slots used : List Nat} {control : Option Control}

/-! ## The automaton and the search agree -/

theorem exists_assign (h : Gives r.arguments g ids slots) (hfree : ∀ k ∈ slots, k ∉ used) :
    ∃ slots', r.assign g ids used = some slots' := by
  induction ids generalizing slots used with
  | nil => exact ⟨[], rfl⟩
  | cons id ids ih =>
    obtain ⟨k, slots, htakes, -, rfl⟩ := List.forall₂_cons_left_iff.1 h.takes
    obtain ⟨⟨a, ha, haccepts⟩, hgives, hnew⟩ := gives_cons.1 h
    have hk : k ∉ used := hfree k List.mem_cons_self
    obtain ⟨more, hmore⟩ : ∃ more, r.assign g ids (k :: used) = some more := by
      refine ih hgives ?_
      intro j hj hused
      rcases List.mem_cons.1 hused with rfl | hused
      · exact hnew hj
      · exact hfree j (List.mem_cons_of_mem _ hj) hused
    -- the argument `k` is one that leads to an end, so the first such is found
    refine Option.isSome_iff_exists.1 (List.findSome?_isSome_iff.2 ⟨(a, k), ?_, ?_⟩)
    · exact List.mk_mem_zipIdx_iff_getElem?.2 ha
    · simp [hk, haccepts, hmore]

theorem Gives.sublist {ids' : List MachineId} (h : Gives arguments g ids slots) (hsub : ids'.Sublist ids) :
    ∃ slots', Gives arguments g ids' slots' ∧ slots'.Sublist slots := by
  induction hsub generalizing slots with
  | slnil => exact ⟨slots, h, List.Sublist.refl _⟩
  | cons id _ ih =>
    obtain ⟨k, slots, -, -, rfl⟩ := List.forall₂_cons_left_iff.1 h.takes
    obtain ⟨slots', hgives, hslots⟩ := ih (gives_cons.1 h).2.1
    exact ⟨slots', hgives, hslots.cons k⟩
  | cons_cons id _ ih =>
    obtain ⟨k, slots, -, -, rfl⟩ := List.forall₂_cons_left_iff.1 h.takes
    obtain ⟨htakes, hgives, hnew⟩ := gives_cons.1 h
    obtain ⟨slots', hgives', hslots⟩ := ih hgives
    exact ⟨k :: slots', gives_cons.2 ⟨htakes, hgives', fun hk => hnew (hslots.subset hk)⟩, hslots.cons_cons k⟩

/-- What the automaton recognises can be given arguments when the token is taken out, wherever that stands. -/
theorem exists_gives_of_recognised (h : Recognised r.verb r.arguments g seq) :
    ∃ slots, Gives r.arguments g (r.others g seq) slots := by
  obtain ⟨args, -, hmatch, hseq⟩ := h
  obtain ⟨slots, hgives, -⟩ := matches_iff_slots.1 hmatch
  rcases hseq with rfl | ⟨v, hv, -, rfl⟩
  · obtain ⟨slots', hgives', -⟩ := hgives.sublist List.eraseP_sublist
    exact ⟨slots', hgives'⟩
  · have hyes : r.isVerb g v = true := by
      rw [isVerb, hv]
      exact beq_self_eq_true _
    refine ⟨slots, ?_⟩
    rwa [others, List.eraseP_cons_of_pos hyes]

theorem Gives.perm_range (h : Gives arguments g ids slots) (hlength : ids.length = arguments.length) :
    slots.Perm (List.range arguments.length) := by
  have hsub : slots ⊆ List.range arguments.length := fun k hk => List.mem_range.2 (h.lt hk)
  refine (List.subperm_of_subset h.nodup hsub).perm_of_length_le ?_
  rw [List.length_range, ← hlength, h.takes.length_eq]

theorem split_of_live (hlive : ∀ id ∈ seq, g.contains id = true) :
    r.split g seq = .ok (seq.find? (r.isVerb g), r.others g seq) := by
  have hsplit : ∃ found, r.split g seq = .ok found := by
    induction seq with
    | nil => exact ⟨_, rfl⟩
    | cons id ids ih =>
      obtain ⟨hid, hids⟩ := List.forall_mem_cons.1 hlive
      obtain ⟨m, hm⟩ := Graph.contains_iff.1 hid
      rw [split, Graph.name_of_find? hm]
      by_cases heq : m.name = r.verb
      · exact ⟨_, if_pos heq⟩
      · obtain ⟨found, hfound⟩ := ih hids
        refine ⟨(found.1, id :: found.2), ?_⟩
        change (if m.name = r.verb then _ else _) = _
        rw [if_neg heq, hfound]
        rfl
  obtain ⟨⟨token, rest⟩, hfound⟩ := hsplit
  obtain ⟨rfl, rfl, -⟩ := split_ok hfound
  exact hfound

/-! ## Which machine stands for the verb -/

/-- The machine that the others are linked to: the token, else the first active instance of the verb. -/
def target? (r : VerbRule) (l : Lexicon) (seq : List MachineId) : Option MachineId :=
  seq.find? (r.isVerb l.graph) <|> l.firstInstance? r.verb

theorem name?_of_target? (hfiled : l.Filed) (hlisted : l.Listed)
    (hactive : ∀ id ∈ l.order, l.graph.contains id = true) (h : r.target? l seq = some verb) :
    verb ∈ seq ++ l.order ∧ l.graph.name? verb = some r.verb := by
  rw [target?, Option.orElse_eq_orElse, Option.orElse_eq_or, Option.or_eq_some_iff] at h
  rcases h with htoken | ⟨-, hinstance⟩
  · have hverb : r.isVerb l.graph verb = true := List.find?_some htoken
    exact ⟨List.mem_append_left _ (List.mem_of_find?_eq_some htoken), beq_iff_eq.1 hverb⟩
  · have hmem : verb ∈ l.instances r.verb := List.mem_of_head? hinstance
    have horder : verb ∈ l.order := (hlisted verb).2 ⟨r.verb, hmem⟩
    obtain ⟨m, hm⟩ := Graph.contains_iff.1 (hactive verb horder)
    have hname := Graph.name?_of_find? hm
    exact ⟨List.mem_append_right _ horder, hname.trans (congrArg some ((hfiled _ verb hmem).2 m.name hname))⟩

theorem exists_target?_iff (hfiled : l.Filed) (hlisted : l.Listed)
    (hactive : ∀ id ∈ l.order, l.graph.contains id = true) :
    (∃ verb, r.target? l seq = some verb) ↔ ∃ id ∈ seq ++ l.order, l.graph.name? id = some r.verb := by
  constructor
  · rintro ⟨verb, hverb⟩
    exact ⟨verb, name?_of_target? hfiled hlisted hactive hverb⟩
  · rintro ⟨id, hid, hname⟩
    rw [← Option.isSome_iff_exists, target?, Option.orElse_eq_orElse, Option.orElse_eq_or, Option.isSome_or,
      Bool.or_eq_true]
    rcases List.mem_append.1 hid with hid | hid
    · refine .inl (List.find?_isSome.2 ⟨id, hid, ?_⟩)
      rw [isVerb, hname]
      exact beq_self_eq_true _
    · obtain ⟨other, hmem⟩ := (hlisted id).1 hid
      obtain rfl := (hfiled other id hmem).2 r.verb hname
      exact .inr (List.isSome_head?.2 (List.ne_nil_of_mem hmem))

/-! ## Linking -/

/-- The machines with the partitions of the arguments they are given. -/
def places (r : VerbRule) (links : List (MachineId × Nat)) : List (MachineId × Nat) :=
  links.filterMap fun (id, k) => (r.arguments[k]?).map fun a => (id, a.partition)

/-- The machines beside the token are linked to the verb, which gets the control: each machine stands in the
partition of an argument of its own that takes it, and as many machines as there are arguments stand one in
each. -/
def Linked (r : VerbRule) (l : Lexicon) (seq : List MachineId) (verb : MachineId) (l' : Lexicon) : Prop :=
  ∃ slots g, Gives r.arguments l.graph (r.others l.graph seq) slots ∧
    ((r.others l.graph seq).length = r.arguments.length → slots.Perm (List.range r.arguments.length)) ∧
    l' = { l with graph := g } ∧
    Joined verb (r.controlFor l.graph (seq.find? (r.isVerb l.graph)))
      (r.places ((r.others l.graph seq).zip slots)) l.graph g

/-- One of the machines behind the token is stale and was given an argument all the same.  Those before it are
linked to the token, and nothing else has changed. -/
def LinkedBefore (r : VerbRule) (l : Lexicon) (seq : List MachineId) (stale : MachineId) (l' : Lexicon) : Prop :=
  ∃ verb slots before k after g, seq.find? (r.isVerb l.graph) = some verb ∧
    Gives r.arguments l.graph (r.others l.graph seq) slots ∧
    (r.others l.graph seq).zip slots = before ++ (stale, k) :: after ∧
    (∀ link ∈ before, l.graph.contains link.1 = true) ∧ l.graph.contains stale = false ∧
    l' = { l with graph := g } ∧ Joined verb (l.graph.control? verb) (r.places before) l.graph g

theorem places_cons {k : Nat} {a : Argument} (ha : r.arguments[k]? = some a) (id : MachineId)
    (links : List (MachineId × Nat)) :
    r.places ((id, k) :: links) = (id, a.partition) :: r.places links := by
  refine List.filterMap_cons_some ?_
  change (r.arguments[k]?).map _ = _
  rw [ha]
  rfl

/-- Linking to a live verb goes on to the first stale machine.  What stands at that point is what was there
before and the links made since. -/
theorem link_cases {g₀ : Graph} {links : List (MachineId × Nat)} {done : List (MachineId × Nat)}
    (hl : l.graph.Sound) (hverb : l.graph.contains verb = true)
    (hjoined : Joined verb control done g₀ l.graph)
    (hslots : ∀ link ∈ links, link.2 < r.arguments.length) :
    ((∀ link ∈ links, g₀.contains link.1 = true) ∧
      ∃ g, r.link verb links l = .ok () { l with graph := g } ∧
        Joined verb control (done ++ r.places links) g₀ g) ∨
    ∃ before id k after g, links = before ++ (id, k) :: after ∧
      (∀ link ∈ before, g₀.contains link.1 = true) ∧ g₀.contains id = false ∧
      r.link verb links l = .error (.stale id) { l with graph := g } ∧
      Joined verb control (done ++ r.places before) g₀ g := by
  induction links generalizing l done with
  | nil =>
    refine .inl ⟨fun _ h => (List.not_mem_nil h).elim, l.graph, rfl, ?_⟩
    rwa [places, List.filterMap_nil, List.append_nil]
  | cons link links ih =>
    obtain ⟨id, k⟩ := link
    obtain ⟨hk, hslots⟩ := List.forall_mem_cons.1 hslots
    have ha : r.arguments[k]? = some r.arguments[k] := List.getElem?_eq_getElem hk
    have hunfold : r.link verb ((id, k) :: links) =
        changeGraph (·.append verb id r.arguments[k].partition) >>= fun _ => r.link verb links := by
      rw [VerbRule.link, ha]
    rw [hunfold]
    cases hlive : l.graph.contains id with
    | false =>
      have happend : l.graph.append verb id r.arguments[k].partition = .error (.stale id) := by
        rw [Graph.append, Graph.get_of_not_contains hlive]
        rfl
      refine .inr ⟨[], id, k, links, l.graph, rfl, fun _ h => (List.not_mem_nil h).elim, ?_, ?_, ?_⟩
      · rw [← hjoined.contains, hlive]
      · exact Lexicon.changeGraph_bind_error happend
      · rwa [places, List.filterMap_nil, List.append_nil]
    | true =>
      obtain ⟨g, happend⟩ := Graph.exists_append hverb hlive r.arguments[k].partition
      have hid : g₀.contains id = true := by rw [← hjoined.contains, hlive]
      rw [Outcome.bind_eq_of_ok (changeGraph_of_ok happend)]
      have hnext := ih (l := { l with graph := g }) (hl.evolves_append happend).sound
        ((Graph.contains_append happend).trans hverb) (hjoined.append hl happend) hslots
      rcases hnext with
        ⟨hall, g', hrun, hjoined'⟩ | ⟨before, x, j, after, g', rfl, hbefore, hstale, hrun, hjoined'⟩
      · refine .inl ⟨List.forall_mem_cons.2 ⟨hid, hall⟩, g', hrun, ?_⟩
        rwa [places_cons ha, List.append_cons]
      · have hbefore' : ∀ link ∈ (id, k) :: before, g₀.contains link.1 = true :=
          List.forall_mem_cons.2 ⟨hid, hbefore⟩
        refine .inr ⟨(id, k) :: before, x, j, after, g', rfl, hbefore', hstale, hrun, ?_⟩
        rwa [places_cons ha, List.append_cons]

theorem linkAll_run (hl : l.graph.Sound) (hverb : l.graph.contains verb = true)
    (hgives : Gives r.arguments l.graph ids slots) (control : Option Control) :
    ((∀ id ∈ ids, l.graph.contains id = true) ∧
      ∃ g, r.linkAll verb control ids slots l = .ok (some [verb]) { l with graph := g } ∧
        Joined verb control (r.places (ids.zip slots)) l.graph g) ∨
    ∃ before id k after g, ids.zip slots = before ++ (id, k) :: after ∧
      (∀ link ∈ before, l.graph.contains link.1 = true) ∧ l.graph.contains id = false ∧
      r.linkAll verb control ids slots l = .error (.stale id) { l with graph := g } ∧
      Joined verb control (r.places before) l.graph g := by
  obtain ⟨m, hm⟩ := Graph.contains_iff.1 hverb
  obtain ⟨g₁, hset⟩ : ∃ g, l.graph.setControl verb control = .ok g := by
    rw [Graph.setControl, Graph.get_of_find? hm]
    exact ⟨_, rfl⟩
  have hjoined := hl.joined_setControl hset
  have hslots : ∀ link ∈ ids.zip slots, link.2 < r.arguments.length := fun link hlink =>
    hgives.lt (List.of_mem_zip hlink).2
  have hunfold : r.linkAll verb control ids slots l =
      (r.link verb (ids.zip slots) >>= fun _ => pure (some [verb])) { l with graph := g₁ } :=
    Outcome.bind_eq_of_ok (changeGraph_of_ok hset)
  have hrun := link_cases (l := { l with graph := g₁ }) (hl.evolves_setControl hset).sound
    ((hjoined.contains verb).trans hverb) hjoined hslots
  rw [hunfold]
  rcases hrun with
    ⟨hlive, g, hlink, hjoined'⟩ | ⟨before, id, k, after, g, hzip, hbefore, hstale, hlink, hjoined'⟩
  · refine .inl ⟨?_, g, Outcome.bind_eq_of_ok hlink, hjoined'⟩
    intro id hid
    rw [← List.map_fst_zip (hgives.takes.length_eq.le)] at hid
    obtain ⟨link, hmem, rfl⟩ := List.mem_map.1 hid
    exact hlive link hmem
  · exact .inr ⟨before, id, k, after, g, hzip, hbefore, hstale, Outcome.bind_eq_of_error hlink, hjoined'⟩

theorem linkAll_error {e : Error} (hl : l.graph.Sound) (hverb : l.graph.contains verb = true)
    (hgives : Gives r.arguments l.graph ids slots) (h : r.linkAll verb control ids slots l = .error e l') :
    ∃ before id k after g, e = .stale id ∧ ids.zip slots = before ++ (id, k) :: after ∧
      (∀ link ∈ before, l.graph.contains link.1 = true) ∧ l.graph.contains id = false ∧
      l' = { l with graph := g } ∧ Joined verb control (r.places before) l.graph g := by
  rcases linkAll_run hl hverb hgives control with
    ⟨-, g, hrun, -⟩ | ⟨before, id, k, after, g, hzip, hbefore, hstale, hrun, hjoined⟩
  · rw [hrun] at h
    cases h
  · rw [hrun] at h
    cases h
    exact ⟨before, id, k, after, g, rfl, hzip, hbefore, hstale, rfl, hjoined⟩

theorem mem_of_zip_others {k : Nat} {before after : List (MachineId × Nat)}
    (hzip : (r.others g seq).zip slots = before ++ (id, k) :: after) : id ∈ seq := by
  have hmem : (id, k) ∈ (r.others g seq).zip slots := hzip ▸ List.mem_append_right _ List.mem_cons_self
  exact List.mem_of_mem_eraseP (List.of_mem_zip hmem).1

/-! ## Acts -/

theorem act_of_split (hlast : r.lastCheck l.graph seq = true)
    (hsplit : r.split l.graph seq = .ok (seq.find? (r.isVerb l.graph), r.others l.graph seq)) :
    r.act seq l =
      (match r.target? l seq with
        | none => pure none
        | some verb =>
          match r.assign l.graph (r.others l.graph seq) [] with
          | none => r.failStray (r.stray l.graph (r.others l.graph seq))
          | some slots =>
            r.linkAll verb (r.controlFor l.graph (seq.find? (r.isVerb l.graph))) (r.others l.graph seq) slots :
        LexiconM (Option (List MachineId))) l := by
  rw [act_eq, Lexicon.get_bind, if_pos hlast, Lexicon.ask_bind hsplit]
  rfl

theorem act_of_target?_none (hlive : ∀ id ∈ seq, l.graph.contains id = true)
    (htarget : r.target? l seq = none) : r.act seq l = .ok none l := by
  cases hlast : r.lastCheck l.graph seq with
  | false => exact act_of_not_lastCheck hlast
  | true =>
    rw [act_of_split hlast (split_of_live hlive), htarget]
    rfl

theorem act_of_gives (hl : l.graph.Sound) (hlive : ∀ id ∈ seq, l.graph.contains id = true)
    (hlast : r.lastCheck l.graph seq = true) (htarget : r.target? l seq = some verb)
    (hverb : l.graph.contains verb = true) {slots₀ : List Nat}
    (hgives : Gives r.arguments l.graph (r.others l.graph seq) slots₀) :
    ∃ l', r.act seq l = .ok (some [verb]) l' ∧ r.Linked l seq verb l' := by
  obtain ⟨slots, hassign⟩ := exists_assign hgives (fun _ _ => List.not_mem_nil)
  have hgives' := (gives_of_assign hassign).1
  have hlinked := linkAll_run hl hverb hgives' (r.controlFor l.graph (seq.find? (r.isVerb l.graph)))
  rw [act_of_split hlast (split_of_live hlive), htarget, hassign]
  rcases hlinked with ⟨-, g, hrun, hjoined⟩ | ⟨before, id, k, after, -, hzip, -, hstale, -⟩
  · exact ⟨_, hrun, slots, g, hgives', hgives'.perm_range, rfl, hjoined⟩
  · rw [hlive id (mem_of_zip_others hzip)] at hstale
    cases hstale

/-- An act that fails has changed nothing, or has linked the machines before a stale one. -/
theorem act_error {e : Error} (hl : l.graph.Sound)
    (hverb : ∀ verb, r.target? l seq = some verb → l.graph.contains verb = true)
    (h : r.act seq l = .error e l') :
    l' = l ∨ ∃ id, e = .stale id ∧ r.LinkedBefore l seq id l' := by
  cases hlast : r.lastCheck l.graph seq with
  | false =>
    rw [act_of_not_lastCheck hlast] at h
    cases h
  | true =>
    cases hsplit : r.split l.graph seq with
    | error e' =>
      rw [act_eq, Lexicon.get_bind, if_pos hlast, Lexicon.ask_bind_error hsplit] at h
      cases h
      exact .inl rfl
    | ok found =>
      obtain ⟨token, ids⟩ := found
      obtain ⟨rfl, rfl, hall⟩ := split_ok hsplit
      rw [act_of_split hlast hsplit] at h
      cases htarget : r.target? l seq with
      | none =>
        rw [htarget] at h
        cases h
      | some verb =>
        rw [htarget] at h
        cases hassign : r.assign l.graph (r.others l.graph seq) [] with
        | none =>
          obtain ⟨e', he', -⟩ := r.failStray_fails (r.stray l.graph (r.others l.graph seq)) l
          simp only [hassign, he'] at h
          cases h
          exact .inl rfl
        | some slots =>
          simp only [hassign] at h
          have hgives := (gives_of_assign hassign).1
          obtain ⟨before, id, k, after, g, rfl, hzip, hbefore, hstale, rfl, hjoined⟩ :=
            linkAll_error hl (hverb verb htarget) hgives h
          refine .inr ⟨id, rfl, ?_⟩
          -- without a token every name was looked at, and none was stale
          cases htoken : seq.find? (r.isVerb l.graph) with
          | none =>
            rw [hall htoken id (mem_of_zip_others hzip)] at hstale
            cases hstale
          | some token =>
            rw [target?, htoken] at htarget
            obtain rfl := Option.some.inj htarget
            rw [htoken] at hjoined
            exact ⟨token, slots, before, k, after, g, htoken, hgives, hzip, hbefore, hstale, rfl, hjoined⟩

theorem act_of_rest {r' : VerbRule} (h : r'.rest = r.rest) (seq : List MachineId) : r'.act seq = r.act seq := by
  rw [← act_rest r', h, act_rest]

theorem lastCheck_of_rest {r' : VerbRule} (h : r'.rest = r.rest) (g : Graph) (seq : List MachineId) :
    r'.lastCheck g seq = r.lastCheck g seq := by
  change r'.rest.lastCheck g seq = r.rest.lastCheck g seq
  rw [h]

theorem rest_of_check {r' : VerbRule} {b : Bool} (h : Rule.check g seq r = .ok b r') : r'.rest = r.rest := by
  obtain ⟨automaton, haccepts, rfl⟩ := Rule.onPart_ok h
  have hscan : automaton = (r.automaton.reset.scan g seq).2 := by
    rw [Acceptor.accepts] at haccepts
    dsimp only at haccepts
    split at haccepts
    · cases haccepts
    · cases haccepts
      rfl
  rw [hscan]
  exact r.rest_scan g seq

/-- An accepted sequence of live machines is linked: the act answers the token, or else the first active instance
of the verb, with its control set, and each machine beside the token stands in the partition of an argument of
its own.  With nothing left to be linked, and without a machine that stands for the verb, the act changes
nothing; it never fails.

On any sequence a failing act leaves the lexicon as it was, unless a machine behind the token is stale and was
given an argument all the same; then the machines before it stay linked. -/
theorem accepted_is_linked {l₀ : Lexicon} {cases : DeepCases} (hr : ofLexicon? l₀ name cases = .ok (some r))
    (hl : l.Reachable) (hactive : ∀ id ∈ l.order, l.graph.contains id = true)
    (checks : List (Graph × List MachineId)) (seq : List MachineId) :
    (∃ definition, l₀.static? name = some definition ∧ r.control = l₀.graph.control? definition) ∧
    (∀ r', (∀ id ∈ seq, l.graph.contains id = true) →
      Rule.check l.graph seq (r.afterChecks checks) = .ok true r' →
      (r'.lastCheck l.graph seq = false → r'.act seq l = .ok none l) ∧
      ((∀ id ∈ seq ++ l.order, l.graph.name? id ≠ some name) → r'.act seq l = .ok none l) ∧
      (r'.lastCheck l.graph seq = true → (∃ id ∈ seq ++ l.order, l.graph.name? id = some name) →
        ∃ verb l', r.target? l seq = some verb ∧ r'.act seq l = .ok (some [verb]) l' ∧ r.Linked l seq verb l')) ∧
    ∀ e l', (r.afterChecks checks).act seq l = .error e l' →
      l' = l ∨ ∃ id, e = .stale id ∧ r.LinkedBefore l seq id l' := by
  obtain ⟨-, definition, m, hdefinition, -, heq⟩ := ofLexicon?_ok hr
  have hname : r.verb = name := congrArg VerbRule.verb heq
  have hrest : r.rest = rest ⟨name, r.control, r.arguments, hypercube name r.arguments⟩ := by
    rw [heq]
  have hafter : (r.afterChecks checks).rest = r.rest := rest_afterChecks checks hrest
  have hfiled := hl.filed
  have hlisted := hl.listed
  have hverb : ∀ verb, r.target? l seq = some verb → l.graph.contains verb = true := fun verb htarget =>
    Graph.contains_of_name? (name?_of_target? hfiled hlisted hactive htarget).2
  refine ⟨⟨definition, hdefinition, congrArg VerbRule.control heq⟩, fun r' hlive hcheck => ?_, fun e l' hact => ?_⟩
  · obtain ⟨b, r'', hanswer, hb, hrest'⟩ := check_of_rest (hafter.trans hrest) l.graph seq
    rw [hcheck] at hanswer
    cases hanswer
    have hsame : r'.rest = r.rest := hrest'.trans hafter
    rw [act_of_rest hsame, lastCheck_of_rest hsame]
    have hiff : (∃ verb, r.target? l seq = some verb) ↔
        ∃ id ∈ seq ++ l.order, l.graph.name? id = some r.verb :=
      exists_target?_iff hfiled hlisted hactive
    rw [hname] at hiff
    refine ⟨act_of_not_lastCheck, fun hnone => ?_, fun hlast hsome => ?_⟩
    · refine act_of_target?_none hlive (Option.eq_none_iff_forall_ne_some.2 fun verb htarget => ?_)
      obtain ⟨id, hid, hid'⟩ := hiff.1 ⟨verb, htarget⟩
      exact hnone id hid hid'
    · obtain ⟨verb, htarget⟩ := hiff.2 hsome
      have hrecognised : Recognised r.verb r.arguments l.graph seq := hname.symm ▸ hb.1 rfl
      obtain ⟨slots₀, hgives₀⟩ := exists_gives_of_recognised hrecognised
      obtain ⟨l', hact, hlinked⟩ :=
        act_of_gives hl.sound.graph hlive hlast htarget (hverb verb htarget) hgives₀
      exact ⟨verb, l', htarget, hact, hlinked⟩
  · rw [act_of_rest hafter] at hact
    exact act_error hl.sound.graph hverb hact

/-- Two cases that everything fits but a machine of one name. -/
def anyone : DeepCases :=
  .ofList [("FROM", .negate (.exact "nobody")), ("TO", .negate (.exact "nobody"))]

/-- A lexicon whose only machine has been released. -/
def vacated : Lexicon :=
  { Lexicon.empty with graph := { slots := #[⟨2, none⟩], free := [0], live := 0 } }

/-- A verb that expects both cases, and three active machines, where a machine was released before. -/
def errand : Lexicon :=
  vacated.replay [.create "go" (some (.pos "VERB")), .create "FROM" none, .create "TO" none,
    .append ⟨0, 3⟩ ⟨1, 1⟩ 1, .append ⟨0, 3⟩ ⟨2, 1⟩ 2, .addStatic [⟨0, 3⟩], .create "go" none,
    .create "home" none, .create "town" none, .addActive [⟨3, 1⟩, ⟨4, 1⟩, ⟨5, 1⟩]]

def fetching : VerbRule :=
  let arguments : List Argument :=
    [⟨"FROM", 1, .negate (.exact "nobody")⟩, ⟨"TO", 2, .negate (.exact "nobody")⟩]
  ⟨"go", some (.pos "VERB"), arguments, hypercube "go" arguments⟩

theorem reachable_errand : errand.Reachable := by
  have hvacated : vacated = Lexicon.empty.replay [.create "gone" none, .retain []] := by
    change _ = { Lexicon.empty with graph := ((Graph.empty.create "gone" none).2.retain []).2 }
    rw [Graph.retain, Graph.descendants, Search.preorder_nil]
    rfl
  rw [errand, hvacated, ← Lexicon.replay_append]
  exact ⟨_, rfl⟩

/-- Live machines are linked to the token; with the released machine the act fails, and leaves no more than the
links before it. -/
theorem accepted_is_linked_errand :
    ofLexicon? errand "go" anyone = .ok (some fetching) ∧ errand.Reachable ∧
    (∀ id ∈ errand.order, errand.graph.contains id = true) ∧
    (∃ r', (∀ id ∈ [⟨3, 1⟩, ⟨4, 1⟩, ⟨5, 1⟩], errand.graph.contains id = true) ∧
      Rule.check errand.graph [⟨3, 1⟩, ⟨4, 1⟩, ⟨5, 1⟩] fetching = .ok true r' ∧
      r'.lastCheck errand.graph [⟨3, 1⟩, ⟨4, 1⟩, ⟨5, 1⟩] = true ∧
      ∃ verb l', fetching.target? errand [⟨3, 1⟩, ⟨4, 1⟩, ⟨5, 1⟩] = some verb ∧
        r'.act [⟨3, 1⟩, ⟨4, 1⟩, ⟨5, 1⟩] errand = .ok (some [verb]) l' ∧
        fetching.Linked errand [⟨3, 1⟩, ⟨4, 1⟩, ⟨5, 1⟩] verb l') ∧
    ∃ e l', fetching.act [⟨3, 1⟩, ⟨4, 1⟩, ⟨0, 1⟩] errand = .error e l' ∧
      (l' = errand ∨ ∃ id, e = .stale id ∧ fetching.LinkedBefore errand [⟨3, 1⟩, ⟨4, 1⟩, ⟨0, 1⟩] id l') := by
  have hrule : ofLexicon? errand "go" anyone = .ok (some fetching) := rfl
  have hactive : ∀ id ∈ errand.order, errand.graph.contains id = true := by decide
  have hlive : ∀ id ∈ [⟨3, 1⟩, ⟨4, 1⟩, ⟨5, 1⟩], errand.graph.contains id = true := by decide
  have hcheck : Outcome.answer? (Rule.check errand.graph [⟨3, 1⟩, ⟨4, 1⟩, ⟨5, 1⟩] fetching) = some true := by
    decide +kernel
  have hact : Outcome.error? (fetching.act [⟨3, 1⟩, ⟨4, 1⟩, ⟨0, 1⟩] errand) = some (.stale ⟨0, 1⟩) := by
    decide +kernel
  obtain ⟨r', hchecked⟩ := Outcome.exists_of_answer? hcheck
  have hfails := Outcome.eq_of_error? hact
  have hlast : r'.lastCheck errand.graph [⟨3, 1⟩, ⟨4, 1⟩, ⟨5, 1⟩] = true := by
    rw [lastCheck_of_rest (rest_of_check hchecked)]
    decide +kernel
  refine ⟨hrule, reachable_errand, hactive, ⟨r', hlive, hchecked, hlast, ?_⟩, _, _, hfails, ?_⟩
  · obtain ⟨-, haccepted, -⟩ := accepted_is_linked hrule reachable_errand hactive [] [⟨3, 1⟩, ⟨4, 1⟩, ⟨5, 1⟩]
    obtain ⟨-, -, hlinks⟩ := haccepted r' hlive hchecked
    exact hlinks hlast ⟨⟨3, 1⟩, List.mem_cons_self, rfl⟩
  · exact (accepted_is_linked hrule reachable_errand hactive [] _).2.2 _ _ hfails

/-- The automaton accepts the released machine, and the act that fails on it has linked the machine before. -/
theorem half_linked_errand :
    ofLexicon? errand "go" anyone = .ok (some fetching) ∧ errand.Reachable ∧
    (∀ id ∈ errand.order, errand.graph.contains id = true) ∧
    ∃ r', Rule.check errand.graph [⟨3, 1⟩, ⟨4, 1⟩, ⟨0, 1⟩] fetching = .ok true r' ∧
    ∃ l', fetching.act [⟨3, 1⟩, ⟨4, 1⟩, ⟨0, 1⟩] errand = .error (.stale ⟨0, 1⟩) l' ∧
      errand.graph.partOf ⟨3, 1⟩ 1 = [] ∧ l'.graph.partOf ⟨3, 1⟩ 1 = [⟨4, 1⟩] := by
  have hcheck : Outcome.answer? (Rule.check errand.graph [⟨3, 1⟩, ⟨4, 1⟩, ⟨0, 1⟩] fetching) = some true := by
    decide +kernel
  have hact : Outcome.error? (fetching.act [⟨3, 1⟩, ⟨4, 1⟩, ⟨0, 1⟩] errand) = some (.stale ⟨0, 1⟩) := by
    decide +kernel
  obtain ⟨r', hchecked⟩ := Outcome.exists_of_answer? hcheck
  exact ⟨rfl, reachable_errand, by decide, r', hchecked, _, Outcome.eq_of_error? hact, by decide +kernel,
    by decide +kernel⟩

end VerbRule

end MeaningGraph
