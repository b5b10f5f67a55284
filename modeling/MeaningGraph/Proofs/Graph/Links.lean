/-
# Links: both ends of every link agree

A link is stored twice, in a partition of the parent and among the back-links of the child.  `Holds`
reads the first record, `HeldBy` the second:

    g.Holds p i c     partition i of p has c
    g.HeldBy c p i    the back-links of c have (p, i)

Both speak of live machines only.  The links of a graph are consistent when the two agree, when every
machine has a partition, and when no partition has a handle twice.  That a stored handle is live then
needs no clause of its own: what `Holds` finds is live at the parent, what `HeldBy` finds at the child,
and each follows from the other.

Each operation is described by what it does to the two relations, in the same words for both:

| operation | the links afterwards |
| :-- | :-- |
| `create`, `setControl` | those before |
| `append p c i` | those before and `(p, i, c)` |
| `remove p c i` | those before without `(p, i, c)` |
| `removeEverywhere p c` | those before without all `(p, j, c)` |
| `retain roots` | those before between machines below the roots |

so that consistency is kept with no argument of its own in each case.
-/
import MeaningGraph.Graph.Fold
import MeaningGraph.Proofs.Graph.Slots
import MeaningGraph.Proofs.Outcome
import MeaningGraph.Proofs.Search

namespace MeaningGraph

/-! ## Partitions of one machine -/

namespace Machine

variable {m : Machine} {c : MachineId} {p q : Nat}

theorem mem_part_iff : c ∈ m.part q ↔ ∃ part, m.parts[q]? = some part ∧ c ∈ part := by
  rw [part, List.getD_eq_getElem?_getD]
  cases m.parts[q]? <;> simp

theorem mem_links_iff : c ∈ m.links ↔ ∃ p, c ∈ m.part p := by
  simp only [links, List.mem_flatten, mem_part_iff]
  constructor
  · rintro ⟨part, hpart, hc⟩
    obtain ⟨p, hp⟩ := List.mem_iff_getElem?.1 hpart
    exact ⟨p, part, hp, hc⟩
  · rintro ⟨p, part, hp, hc⟩
    exact ⟨part, List.mem_of_getElem? hp, hc⟩

theorem getD_padded (n : Nat) (parts : List (List MachineId)) (q : Nat) :
    ((padded n parts)[q]?).getD [] = (parts[q]?).getD [] := by
  rw [padded, List.getElem?_append]
  split
  · rfl
  · rename_i h
    rw [List.getElem?_eq_none (Nat.le_of_not_lt h), List.getElem?_replicate]
    split <;> rfl

theorem lt_length_padded (n : Nat) (parts : List (List MachineId)) :
    n ≤ (padded n parts).length := by
  simp only [padded, List.length_append, List.length_replicate]
  omega

@[simp] theorem part_addChild (m : Machine) (c : MachineId) (p q : Nat) :
    (m.addChild c p).part q = if q = p then m.part p ++ [c] else m.part q := by
  simp only [part, addChild, List.getD_eq_getElem?_getD, List.getElem?_modify]
  split
  · rename_i h
    subst h
    rw [if_pos rfl, ← getD_padded (p + 1)]
    have hlt : p < (padded (p + 1) m.parts).length := lt_length_padded (p + 1) m.parts
    simp [List.getElem?_eq_getElem hlt]
  · rename_i h
    rw [if_neg (Ne.symm h)]
    simp [getD_padded]

theorem parts_addChild_ne_nil (m : Machine) (c : MachineId) (p : Nat) :
    (m.addChild c p).parts ≠ [] := by
  have hlt : p < (padded (p + 1) m.parts).length := lt_length_padded (p + 1) m.parts
  intro h
  have hlen := congrArg List.length h
  simp only [addChild, List.length_modify, List.length_nil] at hlen
  omega

@[simp] theorem part_dropChild (m : Machine) (c : MachineId) (p q : Nat) :
    (m.dropChild c p).part q = if q = p then (m.part p).erase c else m.part q := by
  simp only [part, dropChild, List.getD_eq_getElem?_getD, List.getElem?_modify]
  split
  · rename_i h
    subst h
    rw [if_pos rfl]
    cases m.parts[p]? <;> simp
  · rename_i h
    rw [if_neg (Ne.symm h)]
    simp

@[simp] theorem part_dropChildEverywhere (m : Machine) (c : MachineId) (q : Nat) :
    (m.dropChildEverywhere c).part q = (m.part q).erase c := by
  simp only [part, dropChildEverywhere, List.getD_eq_getElem?_getD, List.getElem?_map]
  cases m.parts[q]? <;> simp

@[simp] theorem part_keepParents (m : Machine) (keep : Link → Bool) :
    (m.keepParents keep).part q = m.part q :=
  rfl

theorem mem_parents_keepParents {keep : Link → Bool} {link : Link} :
    link ∈ (m.keepParents keep).parents ↔ link ∈ m.parents ∧ keep link = true :=
  List.mem_filter

theorem keepParents_eq_self {m : Machine} {keep : Link → Bool}
    (h : ∀ link ∈ m.parents, keep link = true) : m.keepParents keep = m := by
  unfold keepParents
  rw [List.filter_eq_self.2 h]

@[simp] theorem part_bare (name : String) (control : Option Control) :
    (Graph.bare name control).part q = [] := by
  cases q <;> rfl

end Machine

namespace Graph

variable {g g' : Graph} {p c x y id : MachineId} {i j : Nat}

/-! ## The two records of a link -/

/-- Partition `i` of the live machine `p` has `c`. -/
def Holds (g : Graph) (p : MachineId) (i : Nat) (c : MachineId) : Prop :=
  ∃ m, g.find? p = some m ∧ c ∈ m.part i

/-- The back-links of the live machine `c` have `(p, i)`. -/
def HeldBy (g : Graph) (c p : MachineId) (i : Nat) : Prop :=
  ∃ m, g.find? c = some m ∧ ⟨p, i⟩ ∈ m.parents

theorem Holds.contains (h : g.Holds p i c) : g.contains p = true :=
  let ⟨_, hm, _⟩ := h
  contains_of_find? hm

theorem HeldBy.contains (h : g.HeldBy c p i) : g.contains c = true :=
  let ⟨_, hm, _⟩ := h
  contains_of_find? hm

theorem holds_iff_of_find? {m : Machine} (h : g.find? p = some m) : g.Holds p i c ↔ c ∈ m.part i := by
  simp [Holds, h]

theorem heldBy_iff_of_find? {m : Machine} (h : g.find? c = some m) :
    g.HeldBy c p i ↔ ⟨p, i⟩ ∈ m.parents := by
  simp [HeldBy, h]

/-- The machines in a partition; a stale handle has none. -/
def partOf (g : Graph) (id : MachineId) (i : Nat) : List MachineId :=
  ((g.find? id).map (·.part i)).getD []

theorem partOf_of_find? {m : Machine} (h : g.find? id = some m) (i : Nat) : g.partOf id i = m.part i := by
  rw [partOf, h, Option.map_some, Option.getD_some]

theorem mem_partOf_iff : c ∈ g.partOf id i ↔ g.Holds id i c := by
  cases hm : g.find? id with
  | none => simp [partOf, Holds, hm]
  | some m => rw [partOf_of_find? hm, holds_iff_of_find? hm]

/-- The links of the graph are consistent. -/
structure LinksConsistent (g : Graph) : Prop where
  parts_ne_nil : ∀ id m, g.find? id = some m → m.parts ≠ []
  nodup_part : ∀ id m, g.find? id = some m → ∀ i, (m.part i).Nodup
  holds_iff : ∀ p i c, g.Holds p i c ↔ g.HeldBy c p i

/-- The graph is in order: its slots and its links. -/
structure Sound (g : Graph) : Prop where
  slots : g.SlotsOrdered
  links : g.LinksConsistent

theorem Sound.contains_child (h : g.Sound) (hc : g.Holds p i c) : g.contains c = true :=
  ((h.links.holds_iff p i c).1 hc).contains

theorem Sound.contains_parent (h : g.Sound) (hp : g.HeldBy c p i) : g.contains p = true :=
  ((h.links.holds_iff p i c).2 hp).contains

theorem sound_empty : Sound empty where
  slots := slotsOrdered_empty
  links :=
    { parts_ne_nil := fun id m h => by simp [find?, empty] at h
      nodup_part := fun id m h => by simp [find?, empty] at h
      holds_iff := fun p i c => by simp [Holds, HeldBy, find?, empty] }

/-! ## Changes of one machine -/

theorem holds_update (g : Graph) (id : MachineId) (f : Machine → Machine) (x : MachineId) (j : Nat)
    (y : MachineId) :
    (g.update id f).Holds x j y ↔
      if x = id then ∃ m, g.find? id = some m ∧ y ∈ (f m).part j else g.Holds x j y := by
  simp only [Holds, find?_update]
  split <;> simp

theorem heldBy_update (g : Graph) (id : MachineId) (f : Machine → Machine) (y x : MachineId)
    (j : Nat) :
    (g.update id f).HeldBy y x j ↔
      if y = id then ∃ m, g.find? id = some m ∧ ⟨x, j⟩ ∈ (f m).parents else g.HeldBy y x j := by
  simp only [HeldBy, find?_update]
  split <;> simp

theorem holds_update_of_part {f : Machine → Machine} (hf : ∀ m i, (f m).part i = m.part i) :
    (g.update id f).Holds x j y ↔ g.Holds x j y := by
  rw [holds_update]
  split
  · rename_i h
    subst h
    simp only [hf, Holds]
  · rfl

theorem forall_update {P : Machine → Prop} {f : Machine → Machine}
    (h : ∀ other m, g.find? other = some m → P m) (hf : ∀ m, g.find? id = some m → P (f m)) :
    ∀ other m, (g.update id f).find? other = some m → P m := by
  intro other m hm
  rw [find?_update] at hm
  split at hm
  · obtain ⟨m', hm', rfl⟩ := Option.map_eq_some_iff.1 hm
    exact hf m' hm'
  · exact h other m hm

/-! ### A change of both ends

The operations on links change the partitions of a parent by `f` and then the back-links of a child by
`k`; parent and child may be the same machine. -/

variable {f k : Machine → Machine}

theorem holds_update_update (hk : ∀ m i, (k m).part i = m.part i) :
    ((g.update p f).update c k).Holds x j y ↔
      if x = p then ∃ m, g.find? p = some m ∧ y ∈ (f m).part j else g.Holds x j y := by
  rw [holds_update_of_part hk, holds_update]

theorem heldBy_update_update (hf : ∀ m, (f m).parents = m.parents)
    (hk : ∀ m, (k (f m)).parents = (k m).parents) :
    ((g.update p f).update c k).HeldBy y x j ↔
      if y = c then ∃ m, g.find? c = some m ∧ ⟨x, j⟩ ∈ (k m).parents else g.HeldBy y x j := by
  rw [heldBy_update]
  split
  · rw [find?_update]
    split
    · rename_i hcp
      subst hcp
      simp [hk]
    · rfl
  · rw [heldBy_update]
    split
    · rename_i hyp
      subst hyp
      simp [hf, HeldBy]
    · rfl

/-! ## Soundness over time -/

/-- `g'` is in order and comes after `g`, and what is live in both has kept its name. -/
structure Evolves (g g' : Graph) : Prop where
  sound : g'.Sound
  ages : Ages g g'
  names : ∀ id name, g.Known id → g'.name? id = some name → g.name? id = some name

theorem Sound.evolves_refl (h : g.Sound) : Evolves g g :=
  ⟨h, .refl g, fun _ _ _ hname => hname⟩

theorem Evolves.trans {g'' : Graph} (h : Evolves g g') (h' : Evolves g' g'') : Evolves g g'' where
  sound := h'.sound
  ages := h.ages.trans h'.ages
  names id name hid hname := h.names id name hid (h'.names id name (h.ages.known id hid) hname)

theorem name?_of_find? {m : Machine} (h : g.find? id = some m) : g.name? id = some m.name := by
  rw [name?, h]
  rfl

theorem contains_of_name? {name : String} (h : g.name? id = some name) : g.contains id = true := by
  obtain ⟨m, hm, -⟩ := Option.map_eq_some_iff.1 h
  exact contains_of_find? hm

theorem map_find?_update {β : Type} {π : Machine → β} {f : Machine → Machine} (hf : ∀ m, π (f m) = π m)
    (g : Graph) (id other : MachineId) : ((g.update id f).find? other).map π = (g.find? other).map π := by
  rw [find?_update]
  split
  · rename_i h
    subst h
    simp [hf, Function.comp_def]
  · rfl

theorem name?_update {f : Machine → Machine} (hf : ∀ m, (f m).name = m.name) (g : Graph)
    (id other : MachineId) : (g.update id f).name? other = g.name? other :=
  map_find?_update hf g id other

/-! ## The operations -/

theorem get_eq_ok_iff {m : Machine} : g.get id = .ok m ↔ g.find? id = some m := by
  rw [get]
  cases g.find? id <;> simp

theorem get_of_find? {m : Machine} (h : g.find? id = some m) : g.get id = .ok m :=
  get_eq_ok_iff.2 h

theorem get_of_not_contains (h : g.contains id = false) : g.get id = .error (.stale id) := by
  rw [get, find?_eq_none_of_not_contains h]

/-! ### `create` -/

theorem Sound.holds_create (h : g.Sound) (name : String) (control : Option Control) :
    (g.create name control).2.Holds x j y ↔ g.Holds x j y := by
  unfold Holds
  rw [h.slots.find?_create]
  split
  · rename_i hx
    subst hx
    simp [find?_eq_none_of_not_contains (h.slots.not_contains_create name control)]
  · rfl

theorem Sound.heldBy_create (h : g.Sound) (name : String) (control : Option Control) :
    (g.create name control).2.HeldBy y x j ↔ g.HeldBy y x j := by
  unfold HeldBy
  rw [h.slots.find?_create]
  split
  · rename_i hy
    subst hy
    simp [find?_eq_none_of_not_contains (h.slots.not_contains_create name control), bare]
  · rfl

theorem Sound.evolves_create (h : g.Sound) (name : String) (control : Option Control) :
    Evolves g (g.create name control).2 where
  ages := h.slots.ages_create name control
  names id other hid hname := by
    have hne : id ≠ (g.create name control).1 := by
      rintro rfl
      exact h.slots.not_known_create name control hid
    rwa [name?, h.slots.find?_create, if_neg hne] at hname
  sound :=
    { slots := h.slots.create name control
      links :=
        { parts_ne_nil := fun id m hm => by
            rw [h.slots.find?_create] at hm
            split at hm
            · cases hm
              exact List.cons_ne_nil _ _
            · exact h.links.parts_ne_nil id m hm
          nodup_part := fun id m hm i => by
            rw [h.slots.find?_create] at hm
            split at hm
            · cases hm
              rw [Machine.part_bare]
              exact List.nodup_nil
            · exact h.links.nodup_part id m hm i
          holds_iff := fun p i c => by
            rw [h.holds_create, h.heldBy_create, h.links.holds_iff] } }

/-! ### `append` -/

/-- The graph with a link more. -/
def link (g : Graph) (p c : MachineId) (i : Nat) : Graph :=
  (g.update p (·.addChild c i)).update c (·.addParent ⟨p, i⟩)

theorem append_eq {m : Machine} (hp : g.find? p = some m) (hc : g.contains c = true) :
    g.append p c i = .ok (if c ∈ m.part i then g else g.link p c i) := by
  obtain ⟨mc, hc⟩ := contains_iff.1 hc
  unfold append
  rw [get_of_find? hc, get_of_find? hp]
  change (if c ∈ m.part i then Except.ok g else .ok (g.link p c i)) = _
  split <;> rfl

theorem contains_of_append (h : g.append p c i = .ok g') :
    g.contains p = true ∧ g.contains c = true := by
  unfold append at h
  cases hc : g.find? c with
  | none => simp [get, hc, bind, Except.bind] at h
  | some mc =>
    cases hp : g.find? p with
    | none => simp [get, hc, hp, bind, Except.bind] at h
    | some m => exact ⟨contains_of_find? hp, contains_of_find? hc⟩

/-- Appending changes nothing if the link is there, and adds it if not. -/
theorem append_cases (h : g.append p c i = .ok g') :
    g.contains p = true ∧ g.contains c = true ∧
      (g.Holds p i c ∧ g' = g ∨ ¬ g.Holds p i c ∧ g' = g.link p c i) := by
  obtain ⟨hp, hc⟩ := contains_of_append h
  refine ⟨hp, hc, ?_⟩
  obtain ⟨m, hm⟩ := contains_iff.1 hp
  rw [append_eq hm hc] at h
  rw [holds_iff_of_find? hm]
  by_cases hmem : c ∈ m.part i
  · exact .inl ⟨hmem, by simpa [hmem] using h.symm⟩
  · exact .inr ⟨hmem, by simpa [hmem] using h.symm⟩

/-- A change of both ends that keeps them in agreement keeps the graph in order. -/
theorem Sound.evolves_update_update (h : g.Sound) (hk : ∀ m, (k m).parts = m.parts)
    (hnamef : ∀ m, (f m).name = m.name) (hnamek : ∀ m, (k m).name = m.name)
    (hne : ∀ m, g.find? p = some m → (f m).parts ≠ [])
    (hnodup : ∀ m, g.find? p = some m → ∀ j, ((f m).part j).Nodup)
    (hiff : ∀ x j y, ((g.update p f).update c k).Holds x j y ↔
      ((g.update p f).update c k).HeldBy y x j) :
    Evolves g ((g.update p f).update c k) where
  ages := (ages_update g p f).trans (ages_update _ c k)
  names _ _ _ hname := by rwa [name?_update hnamek, name?_update hnamef] at hname
  sound :=
    { slots := (h.slots.update p f).update c k
      links :=
        { parts_ne_nil := by
            have hmid := forall_update (P := fun m => m.parts ≠ []) h.links.parts_ne_nil hne
            exact forall_update hmid fun m hm => (hk m).symm ▸ hmid c m hm
          nodup_part := by
            have hmid := forall_update (P := fun m => ∀ j, (m.part j).Nodup) h.links.nodup_part hnodup
            refine forall_update hmid ?_
            intro m hm j
            rw [Machine.part, hk]
            exact hmid c m hm j
          holds_iff := hiff } }

theorem holds_link (hp : g.contains p = true) :
    (g.link p c i).Holds x j y ↔ g.Holds x j y ∨ x = p ∧ j = i ∧ y = c := by
  obtain ⟨m, hm⟩ := contains_iff.1 hp
  refine Iff.trans (holds_update_update fun _ _ => rfl) ?_
  by_cases hx : x = p
  · subst hx
    by_cases hj : j = i
    · subst hj
      simp [hm, holds_iff_of_find? hm]
    · simp [hm, hj, holds_iff_of_find? hm]
  · simp [hx]

theorem heldBy_link (hc : g.contains c = true) :
    (g.link p c i).HeldBy y x j ↔ g.HeldBy y x j ∨ x = p ∧ j = i ∧ y = c := by
  obtain ⟨m, hm⟩ := contains_iff.1 hc
  refine Iff.trans (heldBy_update_update (fun _ => rfl) fun _ => rfl) ?_
  by_cases hy : y = c
  · subst hy
    simp [hm, heldBy_iff_of_find? hm, Machine.addParent, or_comm]
  · simp [hy]

theorem Sound.evolves_link (h : g.Sound) (hp : g.contains p = true) (hc : g.contains c = true)
    (hnew : ¬ g.Holds p i c) : Evolves g (g.link p c i) := by
  refine h.evolves_update_update (fun _ => rfl) (fun _ => rfl) (fun _ => rfl)
    (fun m _ => m.parts_addChild_ne_nil c i) (fun m hm j => ?_) fun x j y => ?_
  · rw [Machine.part_addChild]
    split
    · rw [holds_iff_of_find? hm] at hnew
      exact List.nodup_append_comm.1 (List.nodup_cons.2 ⟨hnew, h.links.nodup_part p m hm i⟩)
    · exact h.links.nodup_part p m hm j
  · exact (holds_link hp).trans
      ((or_congr_left (h.links.holds_iff x j y)).trans (heldBy_link hc).symm)

theorem Sound.evolves_append (h : g.Sound) (happ : g.append p c i = .ok g') : Evolves g g' := by
  obtain ⟨hp, hc, ⟨_, rfl⟩ | ⟨hnew, rfl⟩⟩ := append_cases happ
  · exact h.evolves_refl
  · exact h.evolves_link hp hc hnew

/-- After appending, the links are those before and the new one. -/
theorem holds_append (happ : g.append p c i = .ok g') :
    g'.Holds x j y ↔ g.Holds x j y ∨ x = p ∧ j = i ∧ y = c := by
  obtain ⟨hp, hc, ⟨hold, rfl⟩ | ⟨hnew, rfl⟩⟩ := append_cases happ
  · refine ⟨.inl, ?_⟩
    rintro (h | ⟨rfl, rfl, rfl⟩)
    · exact h
    · exact hold
  · exact holds_link hp

/-! ### `remove` -/

/-- The graph with a link less. -/
def unlink (g : Graph) (p c : MachineId) (i : Nat) : Graph :=
  (g.update p (·.dropChild c i)).update c (·.keepParents fun link => link ≠ ⟨p, i⟩)

theorem remove_cases (h : g.remove p c i = .ok g') :
    g.contains c = true ∧ g.Holds p i c ∧ g' = g.unlink p c i := by
  unfold remove at h
  cases hc : g.find? c with
  | none => simp [get, hc, bind, Except.bind] at h
  | some mc =>
    cases hp : g.find? p with
    | none => simp [get, hc, hp, bind, Except.bind] at h
    | some m =>
      rw [get_of_find? hc, get_of_find? hp] at h
      change (if c ∈ m.part i then Except.ok (g.unlink p c i)
        else .error (Error.notFound m.name mc.name i)) = _ at h
      split at h
      · rename_i hmem
        exact ⟨contains_of_find? hc, ⟨m, hp, hmem⟩, by simpa using h.symm⟩
      · cases h

theorem Sound.holds_unlink (h : g.Sound) :
    (g.unlink p c i).Holds x j y ↔ g.Holds x j y ∧ ¬ (x = p ∧ j = i ∧ y = c) := by
  refine Iff.trans (holds_update_update fun _ _ => rfl) ?_
  by_cases hx : x = p
  · subst hx
    rw [if_pos rfl]
    simp only [Holds, Machine.part_dropChild]
    by_cases hj : j = i
    · subst hj
      simp only [true_and, if_true]
      constructor
      · rintro ⟨m, hm, hy⟩
        rw [(h.links.nodup_part x m hm j).mem_erase_iff] at hy
        exact ⟨⟨m, hm, hy.2⟩, hy.1⟩
      · rintro ⟨⟨m, hm, hy⟩, hne⟩
        exact ⟨m, hm, (h.links.nodup_part x m hm j).mem_erase_iff.2 ⟨hne, hy⟩⟩
    · simp [hj]
  · simp [hx]

theorem heldBy_unlink :
    (g.unlink p c i).HeldBy y x j ↔ g.HeldBy y x j ∧ ¬ (x = p ∧ j = i ∧ y = c) := by
  refine Iff.trans (heldBy_update_update (fun _ => rfl) fun _ => rfl) ?_
  by_cases hy : y = c
  · subst hy
    simp [HeldBy, Machine.mem_parents_keepParents, ← and_assoc, imp_iff_not_or]
  · simp [hy]

theorem Sound.evolves_remove (h : g.Sound) (hrem : g.remove p c i = .ok g') : Evolves g g' := by
  obtain ⟨-, -, rfl⟩ := remove_cases hrem
  refine h.evolves_update_update (fun _ => rfl) (fun _ => rfl) (fun _ => rfl) ?_ ?_ ?_
  · intro m hm
    simpa [Machine.dropChild] using h.links.parts_ne_nil p m hm
  · intro m hm j
    rw [Machine.part_dropChild]
    split
    · exact (h.links.nodup_part p m hm i).erase c
    · exact h.links.nodup_part p m hm j
  · intro x j y
    exact h.holds_unlink.trans ((and_congr_left' (h.links.holds_iff x j y)).trans heldBy_unlink.symm)

/-! ### `removeEverywhere` -/

/-- The graph without the links from `p` to `c`. -/
def unlinkAll (g : Graph) (p c : MachineId) : Graph :=
  (g.update p (·.dropChildEverywhere c)).update c (·.keepParents fun link => link.parent ≠ p)

theorem removeEverywhere_cases (h : g.removeEverywhere p c = .ok g') :
    g.contains c = true ∧ g.contains p = true ∧ g' = g.unlinkAll p c := by
  unfold removeEverywhere at h
  cases hc : g.find? c with
  | none => simp [get, hc, bind, Except.bind] at h
  | some mc =>
    cases hp : g.find? p with
    | none => simp [get, hc, hp, bind, Except.bind] at h
    | some m =>
      rw [get_of_find? hc, get_of_find? hp] at h
      change Except.ok (g.unlinkAll p c) = _ at h
      exact ⟨contains_of_find? hc, contains_of_find? hp, by simpa using h.symm⟩

theorem Sound.holds_unlinkAll (h : g.Sound) :
    (g.unlinkAll p c).Holds x j y ↔ g.Holds x j y ∧ ¬ (x = p ∧ y = c) := by
  refine Iff.trans (holds_update_update fun _ _ => rfl) ?_
  by_cases hx : x = p
  · subst hx
    rw [if_pos rfl]
    simp only [Holds, Machine.part_dropChildEverywhere, true_and]
    constructor
    · rintro ⟨m, hm, hy⟩
      rw [(h.links.nodup_part x m hm j).mem_erase_iff] at hy
      exact ⟨⟨m, hm, hy.2⟩, hy.1⟩
    · rintro ⟨⟨m, hm, hy⟩, hne⟩
      exact ⟨m, hm, (h.links.nodup_part x m hm j).mem_erase_iff.2 ⟨hne, hy⟩⟩
  · simp [hx]

theorem heldBy_unlinkAll :
    (g.unlinkAll p c).HeldBy y x j ↔ g.HeldBy y x j ∧ ¬ (x = p ∧ y = c) := by
  refine Iff.trans (heldBy_update_update (fun _ => rfl) fun _ => rfl) ?_
  by_cases hy : y = c
  · subst hy
    simp [HeldBy, Machine.mem_parents_keepParents, ← and_assoc]
  · simp [hy]

theorem Sound.evolves_removeEverywhere (h : g.Sound) (hrem : g.removeEverywhere p c = .ok g') :
    Evolves g g' := by
  obtain ⟨-, -, rfl⟩ := removeEverywhere_cases hrem
  refine h.evolves_update_update (fun _ => rfl) (fun _ => rfl) (fun _ => rfl) ?_ ?_ ?_
  · intro m hm
    simpa [Machine.dropChildEverywhere] using h.links.parts_ne_nil p m hm
  · intro m hm j
    rw [Machine.part_dropChildEverywhere]
    exact (h.links.nodup_part p m hm j).erase c
  · intro x j y
    exact h.holds_unlinkAll.trans
      ((and_congr_left' (h.links.holds_iff x j y)).trans heldBy_unlinkAll.symm)

/-! ### `setControl` -/

theorem setControl_cases {control : Option Control} (h : g.setControl id control = .ok g') :
    g.contains id = true ∧ g' = g.update id fun m => { m with control } := by
  unfold setControl at h
  cases hid : g.find? id with
  | none => simp [get, hid, bind, Except.bind] at h
  | some m =>
    rw [get_of_find? hid] at h
    change Except.ok (g.update id fun m => { m with control }) = _ at h
    exact ⟨contains_of_find? hid, by simpa using h.symm⟩

/-- A change of one machine that leaves its links as they are keeps the graph in order. -/
theorem Sound.update (h : g.Sound) (hpart : ∀ m i, (f m).part i = m.part i)
    (hparents : ∀ m, (f m).parents = m.parents) (hne : ∀ m, m.parts ≠ [] → (f m).parts ≠ [])
    (id : MachineId) : (g.update id f).Sound := by
  refine ⟨h.slots.update _ _, ?_, ?_, ?_⟩
  · exact forall_update h.links.parts_ne_nil fun m hm => hne m (h.links.parts_ne_nil id m hm)
  · refine forall_update (P := fun m => ∀ j, (m.part j).Nodup) h.links.nodup_part fun m hm j => ?_
    rw [hpart]
    exact h.links.nodup_part id m hm j
  · intro p i c
    refine Iff.trans (holds_update_of_part hpart) ?_
    rw [h.links.holds_iff, heldBy_update]
    split
    · rename_i hc
      subst hc
      simp only [hparents, HeldBy]
    · rfl

theorem Sound.evolves_setControl (h : g.Sound) {control : Option Control}
    (hset : g.setControl id control = .ok g') : Evolves g g' := by
  obtain ⟨-, rfl⟩ := setControl_cases hset
  have hsound : (g.update id fun m => { m with control }).Sound := by
    refine h.update ?_ ?_ ?_ id
    · exact fun _ _ => rfl
    · exact fun _ => rfl
    · exact fun _ hm => hm
  refine ⟨hsound, ages_update .., ?_⟩
  intro other name _ hname
  rwa [name?_update] at hname
  exact fun _ => rfl

/-! ### `retain` -/

variable {roots : List MachineId}

theorem mem_linksOf_iff : c ∈ g.linksOf p ↔ ∃ i, g.Holds p i c := by
  cases hp : g.find? p with
  | none => simp [linksOf, Holds, hp]
  | some m => simp [linksOf, Holds, hp, Machine.mem_links_iff]

theorem Sound.mem_descendants_of_holds (h : g.Sound) (hp : p ∈ g.descendants roots)
    (hc : g.Holds p i c) : c ∈ g.descendants roots :=
  Search.mem_preorder_of_follows hp ⟨mem_linksOf_iff.2 ⟨i, hc⟩, mem_handles_iff.2 (h.contains_child hc)⟩

theorem holds_retain : (g.retain roots).2.Holds x j y ↔ g.Holds x j y ∧ x ∈ g.descendants roots := by
  unfold Holds
  rw [find?_retain]
  split
  · rename_i hx
    simp [hx]
  · rename_i hx
    simp [hx]

theorem heldBy_retain :
    (g.retain roots).2.HeldBy y x j ↔
      g.HeldBy y x j ∧ y ∈ g.descendants roots ∧ x ∈ g.descendants roots := by
  unfold HeldBy
  rw [find?_retain]
  split
  · rename_i hy
    simp [hy, Machine.mem_parents_keepParents, ← and_assoc]
  · rename_i hy
    simp [hy]

theorem find?_of_find?_retain {m : Machine} (hm : (g.retain roots).2.find? id = some m) :
    ∃ m₀, g.find? id = some m₀ ∧ m.name = m₀.name ∧ m.parts = m₀.parts := by
  rw [find?_retain] at hm
  split at hm
  · obtain ⟨m₀, hm₀, rfl⟩ := Option.map_eq_some_iff.1 hm
    exact ⟨m₀, hm₀, rfl, rfl⟩
  · cases hm

theorem Sound.evolves_retain (h : g.Sound) (roots : List MachineId) :
    Evolves g (g.retain roots).2 where
  ages := ages_retain g roots
  names id name _ hname := by
    obtain ⟨m, hm, rfl⟩ := Option.map_eq_some_iff.1 hname
    obtain ⟨m₀, hm₀, hsame, -⟩ := find?_of_find?_retain hm
    rw [name?_of_find? hm₀, hsame]
  sound :=
    { slots := h.slots.retain roots
      links :=
        { parts_ne_nil := fun id m hm => by
            obtain ⟨m₀, hm₀, -, hparts⟩ := find?_of_find?_retain hm
            exact hparts ▸ h.links.parts_ne_nil id m₀ hm₀
          nodup_part := fun id m hm i => by
            obtain ⟨m₀, hm₀, -, hparts⟩ := find?_of_find?_retain hm
            rw [Machine.part, hparts]
            exact h.links.nodup_part id m₀ hm₀ i
          holds_iff := fun p i c => by
            rw [holds_retain, heldBy_retain, ← h.links.holds_iff]
            constructor
            · rintro ⟨hpc, hp⟩
              exact ⟨hpc, h.mem_descendants_of_holds hp hpc, hp⟩
            · rintro ⟨hpc, -, hp⟩
              exact ⟨hpc, hp⟩ } }

/-! ### `fold` -/

theorem mem_numberedLinks {m : Machine} {link : Nat × MachineId} :
    link ∈ numberedLinks m ↔ link.2 ∈ m.part link.1 := by
  obtain ⟨i, c⟩ := link
  simp only [numberedLinks, List.mem_flatMap, List.mem_map, Prod.exists, List.mk_mem_zipIdx_iff_getElem?,
    Prod.mk.injEq, Machine.mem_part_iff]
  constructor
  · rintro ⟨part, p, hpart, c', hc, rfl, rfl⟩
    exact ⟨part, hpart, hc⟩
  · rintro ⟨part, hpart, hc⟩
    exact ⟨part, i, hpart, c, hc, rfl, rfl⟩

/-- A link that is taken from one place and put into another. -/
theorem Evolves.handOver {g₀ : Graph} {p' c' : MachineId} (hg : Evolves g₀ g)
    (h : (do let g ← g.remove p c i; g.append p' c' j) = .ok g') : Evolves g₀ g' := by
  obtain ⟨g₁, hr, ha⟩ := Outcome.ok_of_bind h
  have h₁ : Evolves g₀ g₁ := hg.trans (hg.sound.evolves_remove hr)
  exact h₁.trans (h₁.sound.evolves_append ha)

theorem Sound.evolves_fold (h : g.Sound) {keep merge : MachineId}
    (hfold : g.fold keep merge = .ok g') : Evolves g g' := by
  obtain ⟨-, -, hfold⟩ := Outcome.ok_of_bind hfold
  obtain ⟨m, -, hfold⟩ := Outcome.ok_of_bind hfold
  obtain ⟨g₁, hchildren, hfold⟩ := Outcome.ok_of_bind hfold
  obtain ⟨m', -, hplaces⟩ := Outcome.ok_of_bind hfold
  have h₁ : Evolves g g₁ :=
    Outcome.foldlM_keeps (fun _ _ _ hg => hg.handOver) h.evolves_refl hchildren
  exact Outcome.foldlM_keeps (fun _ _ _ hg => hg.handOver) h₁ hplaces

end Graph

end MeaningGraph
