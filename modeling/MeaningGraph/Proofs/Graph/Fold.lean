/-
# Folding one machine into another

Folding `merge` into `keep` leads to the quotient of the graph in which the two are one: every link of the
folded graph is a link of the graph with `merge` read as `keep`, and every such link is there.

    redirect keep merge         merge ↦ keep, all others stay

    before                      after the children           after the places
    (merge, i, c)               (keep, i, redirect c)        (keep, i, redirect c)
    (p, i, merge)               (p, i, merge)                (p, i, keep)
    (p, i, c)                   (p, i, c)                    (p, i, c)

Both phases move links, the first those that `merge` holds, the second those that hold it, and the two are
instances of one lemma (`Sound.moveAll`): links that are there, each named once, are replaced by others, none
of which is still to be taken away.  No step can fail then.  The second phase walks the back-links of `merge`
as the first left them; these name each place once because they are kept in increasing order
(`OrderedParents`).
-/
import MeaningGraph.Proofs.Graph.Handles

namespace MeaningGraph

/-! ## Lists in increasing order -/

namespace SortedList

variable {α : Type} [DecidableEq α] {before : α → α → Bool} {a : α} {l : List α}

/-- Every member comes before all that follow it. -/
def Increasing (before : α → α → Bool) (l : List α) : Prop :=
  l.Pairwise fun a b => before a b = true

/-- Of two different members one comes before the other. -/
structure Linear (before : α → α → Bool) : Prop where
  trans : ∀ a b c, before a b = true → before b c = true → before a c = true
  total : ∀ a b, a = b ∨ before a b = true ∨ before b a = true

theorem Increasing.insert (h : Increasing before l) (hbefore : Linear before) (a : α) :
    Increasing before (insert before a l) := by
  induction l with
  | nil => exact List.pairwise_singleton _ a
  | cons b bs ih =>
    obtain ⟨hb, hbs⟩ := List.pairwise_cons.1 h
    unfold SortedList.insert
    split
    · exact h
    · rename_i hne
      split
      · rename_i hab
        refine List.pairwise_cons.2 ⟨?_, h⟩
        intro x hx
        rcases List.mem_cons.1 hx with rfl | hx
        · exact hab
        · exact hbefore.trans a b x hab (hb x hx)
      · rename_i hab
        have hba : before b a = true := ((hbefore.total a b).resolve_left hne).resolve_left hab
        refine List.pairwise_cons.2 ⟨?_, ih hbs⟩
        intro x hx
        rcases mem_insert.1 hx with rfl | hx
        · exact hba
        · exact hb x hx

theorem increasing_ofList (hbefore : Linear before) (as : List α) :
    Increasing before (ofList before as) := by
  refine List.foldlRecOn as (fun sorted a => SortedList.insert before a sorted) List.Pairwise.nil ?_
  intro sorted h a _
  exact Increasing.insert h hbefore a

end SortedList

namespace Link

variable {a b : Link}

theorem before_iff :
    a.before b = true ↔
      (a.parent.index < b.parent.index ∨
        a.parent.index = b.parent.index ∧ a.parent.generation < b.parent.generation) ∨
      (a.parent.index = b.parent.index ∧ a.parent.generation = b.parent.generation) ∧
        a.partition < b.partition := by
  obtain ⟨⟨i, n⟩, p⟩ := a
  obtain ⟨⟨j, k⟩, q⟩ := b
  simp [before, MachineId.before]

theorem linear_before : SortedList.Linear before where
  trans a b c hab hbc := by
    rw [before_iff] at *
    omega
  total a b := by
    rw [before_iff, before_iff]
    obtain ⟨⟨i, n⟩, p⟩ := a
    obtain ⟨⟨j, k⟩, q⟩ := b
    simp only [Link.mk.injEq, MachineId.mk.injEq]
    omega

theorem not_before_self (a : Link) : a.before a = false := by
  rw [Bool.eq_false_iff, Ne, before_iff]
  omega

end Link

namespace Machine

variable {m : Machine}

/-- The back-links stand in increasing order. -/
def OrderedParents (m : Machine) : Prop :=
  SortedList.Increasing Link.before m.parents

theorem OrderedParents.nodup (h : m.OrderedParents) : m.parents.Nodup := by
  refine h.imp ?_
  rintro a _ hab rfl
  rw [Link.not_before_self] at hab
  cases hab

theorem OrderedParents.addParent (h : m.OrderedParents) (link : Link) :
    (m.addParent link).OrderedParents :=
  SortedList.Increasing.insert h Link.linear_before link

theorem OrderedParents.keepParents (h : m.OrderedParents) (keep : Link → Bool) :
    (m.keepParents keep).OrderedParents :=
  h.filter _

end Machine

namespace Graph

variable {g g' g'' : Graph} {p c x y id keep merge : MachineId} {i j : Nat} {m : Machine}

/-! ## Back-links in increasing order -/

/-- The back-links of every machine stand in increasing order. -/
def OrderedParents (g : Graph) : Prop :=
  ∀ id m, g.find? id = some m → m.OrderedParents

theorem orderedParents_empty : empty.OrderedParents := by
  intro id m hm
  simp [find?, empty] at hm

theorem OrderedParents.update {f : Machine → Machine} (h : g.OrderedParents)
    (hf : ∀ m : Machine, m.OrderedParents → (f m).OrderedParents) : (g.update id f).OrderedParents :=
  forall_update h fun m hm => hf m (h id m hm)

theorem OrderedParents.create (h : g.OrderedParents) (hg : g.SlotsOrdered) (name : String)
    (control : Option Control) : (g.create name control).2.OrderedParents := by
  intro id m hm
  rw [hg.find?_create] at hm
  split at hm
  · cases hm
    exact List.Pairwise.nil
  · exact h id m hm

theorem OrderedParents.append (h : g.OrderedParents) (happ : g.append p c i = .ok g') :
    g'.OrderedParents := by
  obtain ⟨-, -, ⟨-, rfl⟩ | ⟨-, rfl⟩⟩ := append_cases happ
  · exact h
  · have hparent : (g.update p (·.addChild c i)).OrderedParents := h.update fun _ hm => hm
    exact hparent.update fun _ hm => hm.addParent _

theorem OrderedParents.remove (h : g.OrderedParents) (hrem : g.remove p c i = .ok g') :
    g'.OrderedParents := by
  obtain ⟨-, -, rfl⟩ := remove_cases hrem
  have hparent : (g.update p (·.dropChild c i)).OrderedParents := h.update fun _ hm => hm
  exact hparent.update fun _ hm => hm.keepParents _

theorem OrderedParents.removeEverywhere (h : g.OrderedParents)
    (hrem : g.removeEverywhere p c = .ok g') : g'.OrderedParents := by
  obtain ⟨-, -, rfl⟩ := removeEverywhere_cases hrem
  have hparent : (g.update p (·.dropChildEverywhere c)).OrderedParents := h.update fun _ hm => hm
  exact hparent.update fun _ hm => hm.keepParents _

theorem OrderedParents.setControl {control : Option Control} (h : g.OrderedParents)
    (hset : g.setControl id control = .ok g') : g'.OrderedParents := by
  obtain ⟨-, rfl⟩ := setControl_cases hset
  exact h.update fun _ hm => hm

theorem orderedParents_relabel (pairs : List (MachineId × MachineId)) (m : Machine) :
    (relabel pairs m).OrderedParents :=
  SortedList.increasing_ofList Link.linear_before _

theorem OrderedParents.deepCopy {root copy : MachineId} (h : g.OrderedParents) (hg : g.Sound)
    (hcopy : g.deepCopy root = .ok (copy, g')) : g'.OrderedParents :=
  (hg.deepCopy_cases hcopy).forall_find? h fun m _ => orderedParents_relabel _ m

theorem OrderedParents.retain (h : g.OrderedParents) (roots : List MachineId) :
    (g.retain roots).2.OrderedParents := by
  intro id m hm
  rw [find?_retain] at hm
  split at hm
  · obtain ⟨m₀, hm₀, rfl⟩ := Option.map_eq_some_iff.1 hm
    exact (h id m₀ hm₀).keepParents _
  · cases hm

/-! ## Drawing and taking away -/

/-- The same machines with the same names and controls, linked in another way. -/
structure Relinked (g g' : Graph) : Prop where
  contains : ∀ id, g'.contains id = g.contains id
  name? : ∀ id, g'.name? id = g.name? id
  control? : ∀ id, g'.control? id = g.control? id

theorem Relinked.refl (g : Graph) : Relinked g g :=
  ⟨fun _ => rfl, fun _ => rfl, fun _ => rfl⟩

theorem Relinked.trans (h : Relinked g g') (h' : Relinked g' g'') : Relinked g g'' where
  contains id := (h'.contains id).trans (h.contains id)
  name? id := (h'.name? id).trans (h.name? id)
  control? id := (h'.control? id).trans (h.control? id)

theorem control?_update {f : Machine → Machine} (hf : ∀ m, (f m).control = m.control) (g : Graph)
    (id other : MachineId) : (g.update id f).control? other = g.control? other := by
  have hmap := map_find?_update hf g id other
  have hbind := congrArg (·.bind fun control => control) hmap
  rw [Option.bind_map, Option.bind_map] at hbind
  exact hbind

theorem relinked_update (g : Graph) (id : MachineId) (f : Machine → Machine)
    (hname : ∀ m, (f m).name = m.name) (hcontrol : ∀ m, (f m).control = m.control) :
    Relinked g (g.update id f) :=
  ⟨fun other => contains_update g id other f, name?_update hname g id, control?_update hcontrol g id⟩

theorem relinked_link (g : Graph) (p c : MachineId) (i : Nat) : Relinked g (g.link p c i) :=
  (relinked_update g p (·.addChild c i) (fun _ => rfl) fun _ => rfl).trans
    (relinked_update _ c (·.addParent ⟨p, i⟩) (fun _ => rfl) fun _ => rfl)

theorem relinked_unlink (g : Graph) (p c : MachineId) (i : Nat) : Relinked g (g.unlink p c i) :=
  (relinked_update g p (·.dropChild c i) (fun _ => rfl) fun _ => rfl).trans
    (relinked_update _ c (·.keepParents fun link => link ≠ ⟨p, i⟩) (fun _ => rfl) fun _ => rfl)

theorem relinked_append (h : g.append p c i = .ok g') : Relinked g g' := by
  obtain ⟨-, -, ⟨-, rfl⟩ | ⟨-, rfl⟩⟩ := append_cases h
  · exact .refl _
  · exact relinked_link _ p c i

theorem exists_append (hp : g.contains p = true) (hc : g.contains c = true) (i : Nat) :
    ∃ g', g.append p c i = .ok g' := by
  obtain ⟨m, hm⟩ := contains_iff.1 hp
  exact ⟨_, append_eq hm hc⟩

theorem Sound.remove_eq (h : g.Sound) (hold : g.Holds p i c) : g.remove p c i = .ok (g.unlink p c i) := by
  obtain ⟨mc, hc⟩ := contains_iff.1 (h.contains_child hold)
  obtain ⟨m, hp, hmem⟩ := hold
  rw [remove, get_of_find? hc, get_of_find? hp]
  change (if c ∈ m.part i then Except.ok (g.unlink p c i) else .error (Error.notFound m.name mc.name i)) = _
  rw [if_pos hmem]

/-! ## Moving links -/

/-- A link: its parent, the partition, its child. -/
structure Arc where
  parent : MachineId
  partition : Nat
  child : MachineId
deriving DecidableEq

/-- The graph has the link. -/
def Has (g : Graph) (a : Arc) : Prop :=
  g.Holds a.parent a.partition a.child

/-- Takes one link away and draws another. -/
def move (old new : Arc) (g : Graph) : Except Error Graph := do
  let g ← g.remove old.parent old.child old.partition
  g.append new.parent new.child new.partition

theorem Sound.exists_move {old new : Arc} (h : g.Sound) (hold : g.Has old)
    (hparent : g.contains new.parent = true) (hchild : g.contains new.child = true) :
    ∃ g', g.move old new = .ok g' ∧ g'.Sound ∧ Relinked g g' ∧
      ∀ a, g'.Has a ↔ g.Has a ∧ a ≠ old ∨ a = new := by
  have hremove := h.remove_eq hold
  have hless := relinked_unlink g old.parent old.child old.partition
  have hsound := (h.evolves_remove hremove).sound
  obtain ⟨g', happend⟩ := exists_append ((hless.contains _).trans hparent) ((hless.contains _).trans hchild)
    new.partition
  refine ⟨g', ?_, (hsound.evolves_append happend).sound, hless.trans (relinked_append happend), ?_⟩
  · rw [move, hremove]
    exact happend
  · rintro ⟨p, i, c⟩
    obtain ⟨p₀, i₀, c₀⟩ := old
    obtain ⟨p₁, i₁, c₁⟩ := new
    rw [Has, Has, holds_append happend, h.holds_unlink]
    simp only [Ne, Arc.mk.injEq]

variable {α : Type} {old new : α → Arc} {as : List α}

/-- `g'` is `g` with the old links replaced by the new ones. -/
structure Moved (old new : α → Arc) (as : List α) (g g' : Graph) : Prop where
  sound : g'.Sound
  relinked : Relinked g g'
  has : ∀ a, g'.Has a ↔ (g.Has a ∧ ∀ x ∈ as, a ≠ old x) ∨ ∃ x ∈ as, a = new x

/-- Links that are there, each named once, can be replaced one after the other, as long as no new link is one
that is still to be taken away. -/
theorem Sound.moveAll (h : g.Sound) (old new : α → Arc) (hnodup : (as.map old).Nodup)
    (hold : ∀ x ∈ as, g.Has (old x))
    (hlive : ∀ x ∈ as, g.contains (new x).parent = true ∧ g.contains (new x).child = true)
    (hapart : ∀ x ∈ as, ∀ y ∈ as, new x ≠ old y) :
    ∃ g', as.foldlM (fun g x => g.move (old x) (new x)) g = .ok g' ∧ Moved old new as g g' := by
  induction as generalizing g with
  | nil => exact ⟨g, rfl, h, .refl g, fun a => by simp⟩
  | cons x as ih =>
    obtain ⟨hfirst, hrest⟩ := List.nodup_cons.1 hnodup
    obtain ⟨hx, has⟩ := List.forall_mem_cons.1 hold
    obtain ⟨hlivex, hliveas⟩ := List.forall_mem_cons.1 hlive
    obtain ⟨g₁, hmove, hsound, hrelinked, hhas⟩ := h.exists_move hx hlivex.1 hlivex.2
    have hne : ∀ y ∈ as, old y ≠ old x := fun y hy heq => hfirst (heq ▸ List.mem_map_of_mem hy)
    obtain ⟨g', hrun, hmoved⟩ := ih hsound hrest
      (fun y hy => (hhas _).2 (.inl ⟨has y hy, hne y hy⟩))
      (fun y hy => ⟨(hrelinked.contains _).trans (hliveas y hy).1, (hrelinked.contains _).trans (hliveas y hy).2⟩)
      (fun y hy z hz => hapart y (List.mem_cons_of_mem _ hy) z (List.mem_cons_of_mem _ hz))
    refine ⟨g', ?_, hmoved.sound, hrelinked.trans hmoved.relinked, ?_⟩
    · rw [List.foldlM_cons, hmove]
      exact hrun
    · intro a
      -- the link that was drawn first is none of those that are taken away later
      have hstays : a = new x → ∀ y ∈ as, a ≠ old y := by
        rintro rfl y hy
        exact hapart x List.mem_cons_self y (List.mem_cons_of_mem _ hy)
      rw [hmoved.has, hhas, List.forall_mem_cons, List.exists_mem_cons_iff]
      constructor
      · rintro (⟨⟨ha, hax⟩ | ha, hother⟩ | ha)
        · exact .inl ⟨ha, hax, hother⟩
        · exact .inr (.inl ha)
        · exact .inr (.inr ha)
      · rintro (⟨ha, hax, hother⟩ | ha | ha)
        · exact .inl ⟨.inl ⟨ha, hax⟩, hother⟩
        · exact .inl ⟨.inr ha, hstays ha⟩
        · exact .inr ha

/-! ## The quotient -/

/-- `merge` becomes `keep`, and everything else stays. -/
def redirect (keep merge id : MachineId) : MachineId :=
  if id = merge then keep else id

theorem redirect_of_ne (h : id ≠ merge) : redirect keep merge id = id :=
  if_neg h

theorem redirect_self (keep merge : MachineId) : redirect keep merge merge = keep :=
  if_pos rfl

theorem redirect_ne (h : keep ≠ merge) (id : MachineId) : redirect keep merge id ≠ merge := by
  unfold redirect
  split
  · exact h
  · assumption

theorem contains_redirect (hkeep : g.contains keep = true) (hid : g.contains id = true) :
    g.contains (redirect keep merge id) = true := by
  unfold redirect
  split
  · exact hkeep
  · exact hid

theorem nodup_numberedLinks (h : ∀ i, (m.part i).Nodup) : (numberedLinks m).Nodup := by
  refine List.nodup_flatMap.2 ⟨?_, ?_⟩
  · rintro ⟨part, p⟩ hpart
    have hget : m.parts[p]? = some part := List.mem_zipIdx_iff_getElem?.1 hpart
    have hp := h p
    rw [Machine.part, List.getD_eq_getElem?_getD, hget] at hp
    exact hp.map fun _ _ heq => (Prod.mk.inj heq).2
  · have hnumbers : (m.parts.zipIdx.map (·.2)).Nodup := by
      rw [List.zipIdx_map_snd]
      exact List.nodup_range'
    refine (List.pairwise_map.1 hnumbers).imp ?_
    rintro ⟨part, p⟩ ⟨part', q⟩ hne ⟨k, c⟩ hleft hright
    obtain ⟨_, -, heq⟩ := List.mem_map.1 hleft
    obtain ⟨_, -, heq'⟩ := List.mem_map.1 hright
    exact hne ((Prod.mk.inj heq).1.trans (Prod.mk.inj heq').1.symm)

theorem Sound.fold_children (h : g.Sound) (hne : keep ≠ merge) (hkeep : g.contains keep = true)
    (hm : g.find? merge = some m) :
    ∃ g₁, (numberedLinks m).foldlM (fun g link => handOverChild keep merge g link.1 link.2) g = .ok g₁ ∧
      g₁.Sound ∧ Relinked g g₁ ∧
      ∀ p i c, g₁.Holds p i c ↔ g.Holds p i c ∧ p ≠ merge ∨
        p = keep ∧ ∃ c', g.Holds merge i c' ∧ redirect keep merge c' = c := by
  have hholds : ∀ link ∈ numberedLinks m, g.Holds merge link.1 link.2 := fun link hlink =>
    ⟨m, hm, mem_numberedLinks.1 hlink⟩
  obtain ⟨g₁, hrun, hmoved⟩ := h.moveAll
    (fun link : Nat × MachineId => ⟨merge, link.1, link.2⟩)
    (fun link => ⟨keep, link.1, redirect keep merge link.2⟩)
    ((nodup_numberedLinks (h.links.nodup_part merge m hm)).map fun a b heq =>
      Prod.ext (Arc.mk.inj heq).2.1 (Arc.mk.inj heq).2.2)
    hholds
    (fun link hlink => ⟨hkeep, contains_redirect hkeep (h.contains_child (hholds link hlink))⟩)
    (fun _ _ _ _ heq => hne (Arc.mk.inj heq).1)
  refine ⟨g₁, hrun, hmoved.sound, hmoved.relinked, ?_⟩
  intro p i c
  refine (hmoved.has ⟨p, i, c⟩).trans (or_congr (and_congr_right fun hold => ?_) ?_)
  · constructor
    · rintro hnone rfl
      exact hnone (i, c) (mem_numberedLinks.2 ((holds_iff_of_find? hm).1 hold)) rfl
    · rintro hpm link - heq
      exact hpm (Arc.mk.inj heq).1
  · constructor
    · rintro ⟨link, hlink, heq⟩
      cases heq
      exact ⟨rfl, link.2, hholds link hlink, rfl⟩
    · rintro ⟨rfl, c', hold, rfl⟩
      exact ⟨(i, c'), mem_numberedLinks.2 ((holds_iff_of_find? hm).1 hold), rfl⟩

/-- The places are handed over.  None of them is a child's, as the children went before. -/
theorem Sound.fold_places (h : g.Sound) (hordered : g.OrderedParents) (hne : keep ≠ merge)
    (hkeep : g.contains keep = true) (hm : g.find? merge = some m) :
    ∃ g', m.parents.foldlM (handOverPlace keep merge) g = .ok g' ∧ g'.Sound ∧ Relinked g g' ∧
      ∀ p i c, g'.Holds p i c ↔ g.Holds p i c ∧ c ≠ merge ∨ c = keep ∧ g.Holds p i merge := by
  have hholds : ∀ link : Link, link ∈ m.parents ↔ g.Holds link.parent link.partition merge := fun link => by
    rw [h.links.holds_iff, heldBy_iff_of_find? hm]
  obtain ⟨g', hrun, hmoved⟩ := h.moveAll
    (fun link : Link => ⟨link.parent, link.partition, merge⟩)
    (fun link => ⟨link.parent, link.partition, keep⟩)
    ((hordered merge m hm).nodup.map fun a b heq => by
      obtain ⟨a, i⟩ := a
      obtain ⟨b, j⟩ := b
      cases heq
      rfl)
    (fun link hlink => (hholds link).1 hlink)
    (fun link hlink => ⟨((hholds link).1 hlink).contains, hkeep⟩)
    (fun _ _ _ _ heq => hne (Arc.mk.inj heq).2.2)
  refine ⟨g', hrun, hmoved.sound, hmoved.relinked, ?_⟩
  intro p i c
  refine (hmoved.has ⟨p, i, c⟩).trans (or_congr (and_congr_right fun hold => ?_) ?_)
  · constructor
    · rintro hnone rfl
      exact hnone ⟨p, i⟩ ((hholds _).2 hold) rfl
    · rintro hcm link - heq
      exact hcm (Arc.mk.inj heq).2.2
  · constructor
    · rintro ⟨link, hlink, heq⟩
      cases heq
      exact ⟨rfl, (hholds link).1 hlink⟩
    · rintro ⟨rfl, hold⟩
      exact ⟨⟨p, i⟩, (hholds _).2 hold, rfl⟩

/-- Two different live machines can be folded, and the links are those of the quotient. -/
theorem Sound.exists_fold (h : g.Sound) (hordered : g.OrderedParents) (hne : keep ≠ merge)
    (hkeep : g.contains keep = true) (hmerge : g.contains merge = true) :
    ∃ g', g.fold keep merge = .ok g' ∧ g'.Sound ∧ Relinked g g' ∧
      ∀ p i c, g'.Holds p i c ↔
        ∃ p' c', g.Holds p' i c' ∧ redirect keep merge p' = p ∧ redirect keep merge c' = c := by
  obtain ⟨mk, hmk⟩ := contains_iff.1 hkeep
  obtain ⟨m, hm⟩ := contains_iff.1 hmerge
  obtain ⟨g₁, hchildren, hsound₁, hrelinked₁, hholds₁⟩ := h.fold_children hne hkeep hm
  have hordered₁ : g₁.OrderedParents := by
    refine Outcome.foldlM_keeps (fun g link g' hg hok => ?_) hordered hchildren
    obtain ⟨g₂, hremove, happend⟩ := Outcome.ok_of_bind hok
    exact (hg.remove hremove).append happend
  obtain ⟨m₁, hm₁⟩ := contains_iff.1 ((hrelinked₁.contains merge).trans hmerge)
  obtain ⟨g', hplaces, hsound, hrelinked, hholds⟩ := hsound₁.fold_places hordered₁ hne
    ((hrelinked₁.contains keep).trans hkeep) hm₁
  refine ⟨g', ?_, hsound, hrelinked₁.trans hrelinked, ?_⟩
  · rw [fold, get_of_find? hmk, get_of_find? hm]
    refine (Outcome.bind_of_ok hchildren).trans ?_
    rw [get_of_find? hm₁]
    exact hplaces
  · intro p i c
    rw [hholds, hholds₁, hholds₁]
    constructor
    · rintro (⟨⟨hold, hp⟩ | ⟨rfl, c', hold, rfl⟩, hc⟩ | ⟨rfl, ⟨hold, hp⟩ | ⟨rfl, c', hold, hc'⟩⟩)
      · exact ⟨p, c, hold, redirect_of_ne hp, redirect_of_ne hc⟩
      · exact ⟨merge, c', hold, redirect_self p merge, rfl⟩
      · exact ⟨p, merge, hold, redirect_of_ne hp, redirect_self c merge⟩
      · exact absurd hc' (redirect_ne hne c')
    · rintro ⟨p', c', hold, rfl, rfl⟩
      by_cases hp : p' = merge
      · subst hp
        rw [redirect_self]
        exact .inl ⟨.inr ⟨rfl, c', hold, rfl⟩, redirect_ne hne c'⟩
      · rw [redirect_of_ne hp]
        by_cases hc : c' = merge
        · subst hc
          exact .inr ⟨redirect_self keep c', .inl ⟨hold, hp⟩⟩
        · rw [redirect_of_ne hc]
          exact .inl ⟨.inl ⟨hold, hp⟩, hc⟩

theorem fold_of_stale_keep (h : g.contains keep = false) : g.fold keep merge = .error (.stale keep) := by
  rw [fold, get_of_not_contains h]
  rfl

theorem fold_of_stale_merge (hkeep : g.contains keep = true) (h : g.contains merge = false) :
    g.fold keep merge = .error (.stale merge) := by
  obtain ⟨mk, hmk⟩ := contains_iff.1 hkeep
  rw [fold, get_of_find? hmk, get_of_not_contains h]
  rfl

end Graph

end MeaningGraph
