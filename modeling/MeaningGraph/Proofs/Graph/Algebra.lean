/-
# The algebra of links

Appending and removing are changes of two machines, the parent's partitions and the child's back-links, and both may
be changes of one machine, when it is linked to itself.  Written as operators on graphs, they obey

    append p c i · append p c i    =  append p c i
    append p c i · remove p c i    =  padding p                      if the link was not there
    remove p c i₁ · … · remove p c iₙ  =  removeEverywhere p c       i₁ … iₙ the partitions with c, in any order
    append p c i · append q d j    =  append q d j · append p c i    if (p, i) ≠ (q, j)

as equations between whole graphs.  Padding is what is left of an appended link that was removed again: partitions do
not go away when they are emptied.

Nearly all of it is one fact, that changes of machines commute, be they of different machines or of different parts of
one (`update_comm`).  What remains is about a single machine: its partitions are told by their number and by what is in
each (`Machine.parts_ext`), and its back-links, which stand in order, by their members.
-/
import MeaningGraph.Proofs.Graph.InPlace
import MeaningGraph.Proofs.Lexicon.Unify

namespace MeaningGraph

/-! ## One machine -/

namespace SortedList

variable {α : Type} {before : α → α → Bool}

theorem Increasing.ext {as bs : List α} (hbefore : Linear before) (hself : ∀ a, before a a = false)
    (has : Increasing before as) (hbs : Increasing before bs) (hmem : ∀ a, a ∈ as ↔ a ∈ bs) : as = bs := by
  have hirrefl : Std.Irrefl fun a b => before a b = true := ⟨fun a h => by simp [hself] at h⟩
  have hantisymm : Std.Antisymm fun a b => before a b = true := by
    refine ⟨fun a b hab hba => ?_⟩
    have haa := hbefore.trans a b a hab hba
    simp [hself] at haa
  exact List.Pairwise.eq_of_mem_iff has hbs hmem

theorem filter_insert_of_not_mem [DecidableEq α] {a : α} {l : List α} (h : a ∉ l) :
    (insert before a l).filter (· ≠ a) = l := by
  induction l with
  | nil => simp [insert]
  | cons b bs ih =>
    have hne : a ≠ b := fun heq => h (heq ▸ List.mem_cons_self)
    have hbs : a ∉ bs := fun hmem => h (List.mem_cons_of_mem b hmem)
    unfold insert
    rw [if_neg hne]
    split
    · rw [List.filter_cons_of_neg (by simp)]
      exact List.filter_eq_self.2 fun x hx => decide_eq_true fun heq => h (heq ▸ hx)
    · rw [List.filter_cons_of_pos (by simpa using Ne.symm hne), ih hbs]

end SortedList

namespace Machine

variable {m m' : Machine} {c d : MachineId} {i j : Nat}

theorem parts_ext (hlength : m.parts.length = m'.parts.length) (hpart : ∀ q, m.part q = m'.part q) :
    m.parts = m'.parts := by
  refine List.ext_getElem hlength fun q hq hq' => ?_
  have h := hpart q
  simpa [part, List.getD_eq_getElem?_getD, List.getElem?_eq_getElem hq, List.getElem?_eq_getElem hq'] using h

theorem eq_of_part {m m' : Machine} (hname : m.name = m'.name) (hcontrol : m.control = m'.control)
    (hparents : m.parents = m'.parents) (hlength : m.parts.length = m'.parts.length)
    (hpart : ∀ q, m.part q = m'.part q) : m = m' := by
  have hparts := parts_ext hlength hpart
  cases m
  cases m'
  simp_all

theorem length_parts_addChild (m : Machine) (c : MachineId) (i : Nat) :
    (m.addChild c i).parts.length = max m.parts.length (i + 1) := by
  rw [addChild, List.length_modify, padded, List.length_append, List.length_replicate]
  omega

theorem addChild_comm (hij : i ≠ j) (m : Machine) (c d : MachineId) :
    (m.addChild c i).addChild d j = (m.addChild d j).addChild c i := by
  refine eq_of_part rfl rfl rfl ?_ fun q => ?_
  · simp only [length_parts_addChild]
    omega
  · simp only [part_addChild]
    by_cases hqi : q = i
    · subst hqi
      simp [hij]
    · simp [hqi, hij.symm]

theorem OrderedParents.addParent_comm (h : m.OrderedParents) (a b : Link) :
    (m.addParent a).addParent b = (m.addParent b).addParent a := by
  have hparents : ((m.addParent a).addParent b).parents = ((m.addParent b).addParent a).parents := by
    refine SortedList.Increasing.ext Link.linear_before Link.not_before_self ((h.addParent a).addParent b)
      ((h.addParent b).addParent a) fun link => ?_
    simp only [Machine.addParent, SortedList.mem_insert]
    exact or_left_comm
  exact congrArg (fun parents => { m with parents }) hparents

theorem dropChild_addChild (h : c ∉ m.part i) : (m.addChild c i).dropChild c i = Graph.InPlace.pad (i + 1) m := by
  refine eq_of_part rfl rfl rfl ?_ fun q => ?_
  · simp only [dropChild, addChild, Graph.InPlace.pad, List.length_modify]
  · rw [part_dropChild, Graph.InPlace.part_pad]
    split
    · rename_i hq
      subst hq
      rw [part_addChild, if_pos rfl, List.erase_append_right _ h, List.erase_cons_head, List.append_nil]
    · rename_i hq
      rw [part_addChild, if_neg hq]

theorem dropChildEverywhere_dropChild (hnodup : ∀ q, (m.part q).Nodup) (c : MachineId) (i : Nat) :
    (m.dropChild c i).dropChildEverywhere c = m.dropChildEverywhere c := by
  refine eq_of_part rfl rfl rfl ?_ fun q => ?_
  · simp only [dropChildEverywhere, dropChild, List.length_map, List.length_modify]
  · rw [part_dropChildEverywhere, part_dropChildEverywhere, part_dropChild]
    split
    · rename_i hq
      subst hq
      exact List.erase_of_not_mem (hnodup q).not_mem_erase
    · rfl

theorem dropChildEverywhere_eq_self (h : ∀ q, c ∉ m.part q) : m.dropChildEverywhere c = m := by
  refine eq_of_part rfl rfl rfl ?_ fun q => ?_
  · simp only [dropChildEverywhere, List.length_map]
  · rw [part_dropChildEverywhere, List.erase_of_not_mem (h q)]

theorem links_pad (n : Nat) (m : Machine) : (Graph.InPlace.pad n m).links = m.links := by
  simp [links, Graph.InPlace.pad, padded]

end Machine

/-! ## Two machines -/

namespace Graph

variable {g g' : Graph} {p c q d x y : MachineId} {i j : Nat} {f k : Machine → Machine}

theorem update_comm (h : x = y → ∀ m, g.find? x = some m → k (f m) = f (k m)) :
    (g.update x f).update y k = (g.update y k).update x f := by
  refine SameSlots.eq ?_ fun id => ?_
  · have hleft := (sameSlots_update (g.update x f) y k).trans (sameSlots_update g x f)
    have hright := (sameSlots_update (g.update y k) x f).trans (sameSlots_update g y k)
    exact hleft.trans hright.symm
  · simp only [find?_update]
    by_cases hx : id = x
    · subst hx
      by_cases hy : id = y
      · subst hy
        cases hm : g.find? id with
        | none => simp
        | some m => simp [h rfl m hm]
      · simp [hy]
    · by_cases hy : id = y
      · subst hy
        simp [hx]
      · simp [hx, hy]

theorem update_addParent_addChild (g : Graph) (x y : MachineId) (link : Link) (i : Nat) :
    (g.update x (·.addParent link)).update y (·.addChild c i) =
      (g.update y (·.addChild c i)).update x (·.addParent link) :=
  update_comm fun _ _ _ => rfl

/-- Links from two partitions can be drawn in any order, also when a machine has a part in both. -/
theorem OrderedParents.link_comm (h : g.OrderedParents) (hne : ¬(p = q ∧ i = j)) :
    (g.link p c i).link q d j = (g.link q d j).link p c i := by
  have hchildren : (g.update p (·.addChild c i)).update q (·.addChild d j) =
      (g.update q (·.addChild d j)).update p (·.addChild c i) :=
    update_comm fun hpq m _ => Machine.addChild_comm (fun hij => hne ⟨hpq, hij⟩) m c d
  have hmid : ((g.update q (·.addChild d j)).update p (·.addChild c i)).OrderedParents := by
    have hfirst : (g.update q (·.addChild d j)).OrderedParents := h.update fun _ hm => hm
    exact hfirst.update fun _ hm => hm
  unfold link
  rw [update_addParent_addChild, update_addParent_addChild, hchildren]
  exact update_comm fun _ m hm => (hmid _ m hm).addParent_comm _ _

/-- Drawing a new link and taking it away again leaves the padding. -/
theorem Sound.unlink_link (h : g.Sound) (hnew : ¬g.Holds p i c) :
    (g.link p c i).unlink p c i = g.update p (InPlace.pad (i + 1)) := by
  have hends : ((g.update p (·.addChild c i)).update c (·.addParent ⟨p, i⟩)).update p (·.dropChild c i) =
      ((g.update p (·.addChild c i)).update p (·.dropChild c i)).update c (·.addParent ⟨p, i⟩) :=
    update_comm fun _ _ _ => rfl
  have hpadding : (g.update p fun m => (m.addChild c i).dropChild c i) = g.update p (InPlace.pad (i + 1)) :=
    update_congr fun m hm => Machine.dropChild_addChild fun hmem => hnew ⟨m, hm, hmem⟩
  unfold link unlink
  rw [hends, update_update, update_update, hpadding]
  refine update_eq_self fun m hm => ?_
  -- padding keeps the back-links, also where the machine is its own parent
  have hheld : (g.update p (InPlace.pad (i + 1))).HeldBy c p i ↔ g.HeldBy c p i := by
    rw [heldBy_update]
    split
    · rename_i hcp
      subst hcp
      rfl
    · rfl
  have hnot : ⟨p, i⟩ ∉ m.parents := fun hmem =>
    hnew ((h.links.holds_iff ..).2 (hheld.1 ⟨m, hm, hmem⟩))
  exact congrArg (fun parents => { m with parents }) (SortedList.filter_insert_of_not_mem hnot)

theorem Sound.unlinkAll_unlink (h : g.Sound) (p c : MachineId) (i : Nat) :
    (g.unlink p c i).unlinkAll p c = g.unlinkAll p c := by
  have hends : ((g.update p (·.dropChild c i)).update c
        (·.keepParents fun link => link ≠ ⟨p, i⟩)).update p (·.dropChildEverywhere c) =
      ((g.update p (·.dropChild c i)).update p (·.dropChildEverywhere c)).update c
        (·.keepParents fun link => link ≠ ⟨p, i⟩) :=
    update_comm fun _ _ _ => rfl
  have hchild : (g.update p fun m => (m.dropChild c i).dropChildEverywhere c) =
      g.update p (·.dropChildEverywhere c) :=
    update_congr fun m hm => Machine.dropChildEverywhere_dropChild (h.links.nodup_part p m hm) c i
  unfold unlink unlinkAll
  rw [hends, update_update, update_update, hchild]
  refine update_congr fun m _ => ?_
  simp only [Machine.keepParents, List.filter_filter]
  congr 1
  refine List.filter_congr fun link _ => ?_
  rw [Bool.eq_iff_iff]
  simp only [Bool.and_eq_true, decide_eq_true_eq, and_iff_left_iff_imp]
  rintro hparent rfl
  exact hparent rfl

theorem Sound.unlinkAll_eq_self (h : g.Sound) (hnone : ∀ i, ¬g.Holds p i c) : g.unlinkAll p c = g := by
  have hchild : g.update p (·.dropChildEverywhere c) = g := by
    refine update_eq_self fun m hm => Machine.dropChildEverywhere_eq_self fun i hmem => ?_
    exact hnone i ⟨m, hm, hmem⟩
  rw [unlinkAll, hchild]
  refine update_eq_self fun m hm => Machine.keepParents_eq_self fun link hlink => ?_
  simp only [decide_eq_true_eq]
  rintro rfl
  exact hnone link.partition ((h.links.holds_iff ..).2 ⟨m, hm, hlink⟩)

/-- The induction is on the partitions that are left; those before are without the child. -/
theorem Sound.foldlM_remove (h : g.Sound) (is : List Nat) (hnodup : is.Nodup)
    (hmem : ∀ i, i ∈ is ↔ g.Holds p i c) :
    is.foldlM (fun g i => g.remove p c i) g = .ok (g.unlinkAll p c) := by
  induction is generalizing g with
  | nil =>
    rw [h.unlinkAll_eq_self fun i hold => List.not_mem_nil ((hmem i).2 hold)]
    rfl
  | cons i is ih =>
    obtain ⟨hnot, hrest⟩ := List.nodup_cons.1 hnodup
    have hremove := h.remove_eq ((hmem i).1 List.mem_cons_self)
    have hleft : ∀ j, j ∈ is ↔ (g.unlink p c i).Holds p j c := by
      intro j
      rw [h.holds_unlink, ← hmem j, List.mem_cons]
      constructor
      · intro hj
        refine ⟨.inr hj, ?_⟩
        rintro ⟨-, rfl, -⟩
        exact hnot hj
      · rintro ⟨hj | hj, hne⟩
        · exact absurd ⟨rfl, hj, rfl⟩ hne
        · exact hj
    rw [List.foldlM_cons, hremove]
    refine (ih (h.evolves_remove hremove).sound hrest hleft).trans ?_
    rw [h.unlinkAll_unlink]

/-! ## The operations -/

theorem append_of_holds (hold : g.Holds p i c) (hc : g.contains c = true) : g.append p c i = .ok g := by
  obtain ⟨m, hm, hmem⟩ := hold
  rw [append_eq hm hc, if_pos hmem]

theorem append_of_not_holds (hp : g.contains p = true) (hc : g.contains c = true) (hnew : ¬g.Holds p i c) :
    g.append p c i = .ok (g.link p c i) := by
  obtain ⟨m, hm⟩ := contains_iff.1 hp
  rw [append_eq hm hc, if_neg fun hmem => hnew ⟨m, hm, hmem⟩]

theorem append_append (h : g.append p c i = .ok g') : g'.append p c i = .ok g' :=
  append_of_holds ((holds_append h).2 (.inr ⟨rfl, rfl, rfl⟩))
    (((relinked_append h).contains c).trans (contains_of_append h).2)

theorem holds_append_of_ne (h : g.append p c i = .ok g') (hne : ¬(q = p ∧ j = i)) :
    g'.Holds q j d ↔ g.Holds q j d := by
  refine (holds_append h).trans (or_iff_left ?_)
  rintro ⟨hqp, hji, -⟩
  exact hne ⟨hqp, hji⟩

/-- The split is on which of the two links are there already. -/
theorem OrderedParents.append_comm (h : g.OrderedParents) (hne : ¬(p = q ∧ i = j))
    (hp : g.contains p = true) (hc : g.contains c = true) (hq : g.contains q = true) (hd : g.contains d = true) :
    ∃ g', (do let g ← g.append p c i; g.append q d j) = .ok g' ∧
      (do let g ← g.append q d j; g.append p c i) = .ok g' := by
  have hne' : ¬(q = p ∧ j = i) := fun heq => hne ⟨heq.1.symm, heq.2.symm⟩
  obtain ⟨g₁, hfirst⟩ := exists_append hp hc i
  obtain ⟨g₂, hsecond⟩ := exists_append hq hd j
  have hlive₁ := (relinked_append hfirst).contains
  have hlive₂ := (relinked_append hsecond).contains
  rw [Outcome.bind_of_ok hfirst, Outcome.bind_of_ok hsecond]
  obtain ⟨-, -, ⟨hold, heq₁⟩ | ⟨hnew, heq₁⟩⟩ := append_cases hfirst
  · refine ⟨g₂, heq₁ ▸ hsecond, ?_⟩
    exact append_of_holds ((holds_append_of_ne hsecond hne).2 hold) ((hlive₂ c).trans hc)
  · obtain ⟨-, -, ⟨hold', heq₂⟩ | ⟨hnew', heq₂⟩⟩ := append_cases hsecond
    · refine ⟨g₁, ?_, heq₂ ▸ hfirst⟩
      exact append_of_holds ((holds_append_of_ne hfirst hne').2 hold') ((hlive₁ d).trans hd)
    · refine ⟨g₁.link q d j, ?_, ?_⟩
      · exact append_of_not_holds ((hlive₁ q).trans hq) ((hlive₁ d).trans hd)
          (mt (holds_append_of_ne hfirst hne').1 hnew')
      · have hnew₂ := mt (holds_append_of_ne hsecond hne).1 hnew
        rw [append_of_not_holds ((hlive₂ p).trans hp) ((hlive₂ c).trans hc) hnew₂, heq₁, heq₂, h.link_comm hne]

/-! ## What is seen of the links -/

/-- Every partition, every list of children and every set of back-links is the same in both graphs. -/
structure SameLinks (g g' : Graph) : Prop where
  partOf : ∀ id j, g'.partOf id j = g.partOf id j
  children : ∀ id, g'.children id = g.children id
  parents : ∀ id, (g'.find? id).map (·.parents) = (g.find? id).map (·.parents)

theorem children_congr {id : MachineId} (h : (g'.find? id).map (·.links) = (g.find? id).map (·.links)) :
    g'.children id = g.children id := by
  unfold children get
  cases hm' : g'.find? id with
  | none =>
    rw [hm', Option.map_none, eq_comm, Option.map_eq_none_iff] at h
    rw [h]
  | some m' =>
    rw [hm', Option.map_some, eq_comm, Option.map_eq_some_iff] at h
    obtain ⟨m, hm, hlinks⟩ := h
    rw [hm]
    change Except.ok (m'.links.foldl _ _) = Except.ok (m.links.foldl _ _)
    rw [hlinks]

theorem sameLinks_pad (g : Graph) (p : MachineId) (n : Nat) : SameLinks g (g.update p (InPlace.pad n)) where
  partOf id j := by
    have hpart : ((g.update p (InPlace.pad n)).find? id).map (·.part j) = (g.find? id).map (·.part j) :=
      map_find?_update (fun m => InPlace.part_pad n m j) g p id
    rw [Graph.partOf, hpart, Graph.partOf]
  children id := children_congr (map_find?_update (Machine.links_pad n) g p id)
  parents id := map_find?_update (f := InPlace.pad n) (fun _ => rfl) g p id

end Graph

namespace Lexicon

open MeaningGraph.Graph

/-- In any graph that can be reached, between live machines, also between a machine and itself: appending twice is
appending once; a new link that is removed again leaves nothing behind but empty partitions at the end of the parent's;
removing a child from everywhere is removing it from each partition that holds it, one after the other in any order;
and links of different partitions may be appended in any order. -/
theorem link_algebra {l : Lexicon} (hl : l.Reachable) :
    (∀ p c i, l.graph.contains p = true → l.graph.contains c = true →
      ∃ g₁, l.graph.append p c i = .ok g₁ ∧ g₁.append p c i = .ok g₁ ∧
        (¬l.graph.Holds p i c → ∃ g₂, g₁.remove p c i = .ok g₂ ∧ SameLinks l.graph g₂ ∧
          g₂ = l.graph.update p fun m =>
            { m with parts := m.parts ++ List.replicate (i + 1 - m.parts.length) [] })) ∧
    (∀ p c, l.graph.contains p = true → l.graph.contains c = true →
      ∃ g', l.graph.removeEverywhere p c = .ok g' ∧
        ∃ places : List Nat, places.Nodup ∧ (∀ i, i ∈ places ↔ l.graph.Holds p i c) ∧
          ∀ is : List Nat, is.Perm places → is.foldlM (fun g i => g.remove p c i) l.graph = .ok g') ∧
    ∀ p c i q d j, l.graph.contains p = true → l.graph.contains c = true → l.graph.contains q = true →
      l.graph.contains d = true → (p, i) ≠ (q, j) →
      ∃ g', (do let g ← l.graph.append p c i; g.append q d j) = .ok g' ∧
        (do let g ← l.graph.append q d j; g.append p c i) = .ok g' := by
  have hg : l.graph.Sound := hl.sound.graph
  refine ⟨?_, ?_, ?_⟩
  · intro p c i hp hc
    obtain ⟨g₁, happend⟩ := exists_append hp hc i
    refine ⟨g₁, happend, append_append happend, fun hnew => ?_⟩
    obtain ⟨-, -, ⟨hold, -⟩ | ⟨-, rfl⟩⟩ := append_cases happend
    · exact absurd hold hnew
    · have hold : (l.graph.link p c i).Holds p i c := (holds_link hp).2 (.inr ⟨rfl, rfl, rfl⟩)
      have hback := hg.unlink_link hnew
      exact ⟨_, (hg.evolves_append happend).sound.remove_eq hold, hback ▸ sameLinks_pad l.graph p (i + 1), hback⟩
  · intro p c hp hc
    obtain ⟨m, hm⟩ := contains_iff.1 hp
    obtain ⟨mc, hmc⟩ := contains_iff.1 hc
    have hremove : l.graph.removeEverywhere p c = .ok (l.graph.unlinkAll p c) := by
      rw [removeEverywhere, get_of_find? hmc, get_of_find? hm]
      rfl
    have hplaces : ∀ i, i ∈ InPlace.holding m c ↔ l.graph.Holds p i c := fun i =>
      InPlace.mem_holding_iff.trans (holds_iff_of_find? hm).symm
    have hnodup : (InPlace.holding m c).Nodup := List.nodup_range.filter _
    refine ⟨_, hremove, InPlace.holding m c, hnodup, hplaces, fun is hperm => ?_⟩
    exact hg.foldlM_remove is (hperm.nodup_iff.2 hnodup) fun i => hperm.mem_iff.trans (hplaces i)
  · intro p c i q d j hp hc hq hd hne
    exact hl.orderedParents.append_comm (fun heq => hne (Prod.ext heq.1 heq.2)) hp hc hq hd

/-- A line that comes by the stop twice, and by itself. -/
def loopLine : Lexicon :=
  empty.replay [.create "line" none, .create "stop" none, .append ⟨0, 1⟩ ⟨1, 1⟩ 0, .append ⟨0, 1⟩ ⟨1, 1⟩ 3,
    .append ⟨0, 1⟩ ⟨0, 1⟩ 3]

/-- The line is linked to itself far behind its last partition and that link removed again; the stop is taken out of
the later partition first; and links that go both ways between the two are drawn in either order. -/
theorem link_algebra_loopLine :
    loopLine.Reachable ∧ loopLine.graph.contains ⟨0, 1⟩ = true ∧ loopLine.graph.contains ⟨1, 1⟩ = true ∧
    (∃ g₁ g₂, loopLine.graph.append ⟨0, 1⟩ ⟨0, 1⟩ 40 = .ok g₁ ∧ g₁.append ⟨0, 1⟩ ⟨0, 1⟩ 40 = .ok g₁ ∧
      g₁.remove ⟨0, 1⟩ ⟨0, 1⟩ 40 = .ok g₂ ∧ SameLinks loopLine.graph g₂) ∧
    (∃ g', loopLine.graph.removeEverywhere ⟨0, 1⟩ ⟨1, 1⟩ = .ok g' ∧
      [3, 0].foldlM (fun g i => g.remove ⟨0, 1⟩ ⟨1, 1⟩ i) loopLine.graph = .ok g') ∧
    ∃ g', (do let g ← loopLine.graph.append ⟨0, 1⟩ ⟨1, 1⟩ 9; g.append ⟨1, 1⟩ ⟨0, 1⟩ 1) = .ok g' ∧
      (do let g ← loopLine.graph.append ⟨1, 1⟩ ⟨0, 1⟩ 1; g.append ⟨0, 1⟩ ⟨1, 1⟩ 9) = .ok g' := by
  have hreach : loopLine.Reachable := ⟨_, rfl⟩
  have hline : loopLine.graph.contains ⟨0, 1⟩ = true := by decide
  have hstop : loopLine.graph.contains ⟨1, 1⟩ = true := by decide
  have hm : loopLine.graph.find? ⟨0, 1⟩ =
      some ⟨"line", none, [[⟨1, 1⟩], [], [], [⟨1, 1⟩, ⟨0, 1⟩]], [⟨⟨0, 1⟩, 3⟩]⟩ := by
    decide
  obtain ⟨hback, hevery, hswap⟩ := link_algebra hreach
  refine ⟨hreach, hline, hstop, ?_, ?_, hswap _ _ _ _ _ _ hline hstop hstop hline (by decide)⟩
  · obtain ⟨g₁, happend, hagain, hremove⟩ := hback ⟨0, 1⟩ ⟨0, 1⟩ 40 hline hline
    obtain ⟨g₂, hremove, hsame, -⟩ := hremove (by rw [holds_iff_of_find? hm]; decide)
    exact ⟨g₁, g₂, happend, hagain, hremove, hsame⟩
  · obtain ⟨g', hremove, places, hnodup, hplaces, hany⟩ := hevery ⟨0, 1⟩ ⟨1, 1⟩ hline hstop
    refine ⟨g', hremove, hany [3, 0] ((List.perm_ext_iff_of_nodup (by decide) hnodup).2 fun i => ?_)⟩
    rw [hplaces, holds_iff_of_find? hm]
    match i with
    | 0 | 1 | 2 | 3 => decide
    | i + 4 => simp [Machine.part]

end Lexicon

end MeaningGraph
