/-
# Slots: which handles are live, and what happens to a handle in the course of time

A graph keeps its slots in order when

* the free list holds the empty slots, each once,
* a slot is occupied exactly when its generation is odd, and
* the counter of live machines tells how many there are.

Under this discipline a new machine gets a handle that was never given out before (`not_known_create`),
and creating changes what no other handle names (`find?_create`).

`Known` says that a handle was given out at some time: its slot exists and has not yet reached a later
generation.  `Ages g g'` says that `g'` comes after `g`: what was given out stays given out, and what is
stale stays stale.  Every operation on the graph makes it age; this is what keeps a handle that outlived
its machine from ever naming another one.
-/
import Mathlib.Data.List.Nodup
import MeaningGraph.Graph.Release

namespace MeaningGraph.Graph

variable {g g' g'' : Graph} {id other : MachineId}

/-! ## The view through slots -/

theorem find?_eq_some_iff {m : Machine} :
    g.find? id = some m ↔ g.slots[id.index]? = some ⟨id.generation, some m⟩ := by
  unfold find?
  cases hs : g.slots[id.index]? with
  | none => simp
  | some slot =>
    obtain ⟨n, occupant⟩ := slot
    by_cases hn : n = id.generation <;> simp [hn]

theorem contains_iff : g.contains id = true ↔ ∃ m, g.find? id = some m := by
  rw [contains, Option.isSome_iff_exists]

theorem contains_of_find? {m : Machine} (h : g.find? id = some m) : g.contains id = true :=
  contains_iff.2 ⟨m, h⟩

theorem find?_eq_none_of_not_contains (h : g.contains id = false) : g.find? id = none := by
  rwa [contains, Option.isSome_eq_false_iff, Option.isNone_iff_eq_none] at h

theorem mem_handles_iff : id ∈ g.handles ↔ g.contains id = true := by
  obtain ⟨i, n⟩ := id
  simp only [handles, List.mem_filterMap, Prod.exists, List.mem_zipIdx_iff_getElem?,
    Array.getElem?_toList, contains_iff, find?_eq_some_iff]
  constructor
  · rintro ⟨⟨k, occupant⟩, j, hs, hid⟩
    cases occupant with
    | none => simp at hid
    | some m =>
      simp only [Option.isSome_some, if_true, Option.some.injEq, MachineId.mk.injEq] at hid
      obtain ⟨rfl, rfl⟩ := hid
      exact ⟨m, hs⟩
  · rintro ⟨m, hs⟩
    exact ⟨⟨n, some m⟩, i, hs, by simp⟩

/-- The handle of a slot, if a machine lives there. -/
def handleAt? (place : Slot × Nat) : Option MachineId :=
  if place.1.machine.isSome then some ⟨place.2, place.1.generation⟩ else none

theorem handles_eq : g.handles = g.slots.toList.zipIdx.filterMap handleAt? :=
  rfl

theorem length_handles : g.handles.length = g.slots.countP (·.machine.isSome) := by
  have hcount : ∀ (slots : List Slot) (n : Nat),
      ((slots.zipIdx n).filterMap handleAt?).length = slots.countP (·.machine.isSome) := by
    intro slots
    induction slots with
    | nil => intro n; rfl
    | cons slot slots ih =>
      intro n
      by_cases h : slot.machine.isSome = true <;> simp [List.zipIdx_cons, handleAt?, h, ih]
  rw [handles_eq, hcount, Array.countP_toList]

/-- The handles of the live machines stand in the order of their slots. -/
theorem sublist_index_handles : (g.handles.map (·.index)).Sublist (List.range' 0 g.slots.size) := by
  have hsub : ∀ (slots : List Slot) (n : Nat),
      (((slots.zipIdx n).filterMap handleAt?).map (·.index)).Sublist ((slots.zipIdx n).map (·.2)) := by
    intro slots
    induction slots with
    | nil => intro n; exact List.Sublist.slnil
    | cons slot slots ih =>
      intro n
      by_cases h : slot.machine.isSome = true
      · simpa [List.zipIdx_cons, handleAt?, h] using ih (n + 1)
      · simpa [List.zipIdx_cons, handleAt?, h] using (ih (n + 1)).cons n
  have hall := hsub g.slots.toList 0
  rwa [List.zipIdx_map_snd, Array.length_toList] at hall

theorem nodup_index_handles : (g.handles.map (·.index)).Nodup :=
  sublist_index_handles.nodup List.nodup_range'

theorem pairwise_index_handles : g.handles.Pairwise fun a b => a.index < b.index :=
  List.pairwise_map.1 (List.Pairwise.sublist sublist_index_handles List.pairwise_lt_range')

theorem nodup_handles : g.handles.Nodup :=
  nodup_index_handles.of_map _

/-! ## Time -/

/-- The handle was given out, now or earlier. -/
def Known (g : Graph) (id : MachineId) : Prop :=
  ∃ slot, g.slots[id.index]? = some slot ∧ id.generation ≤ slot.generation

theorem Known.of_contains (h : g.contains id = true) : g.Known id := by
  obtain ⟨m, hm⟩ := contains_iff.1 h
  exact ⟨_, find?_eq_some_iff.1 hm, Nat.le_refl _⟩

/-- `g'` comes after `g`: handles given out stay given out, and none of them becomes live again. -/
structure Ages (g g' : Graph) : Prop where
  known : ∀ id, g.Known id → g'.Known id
  stale : ∀ id, g.Known id → g'.contains id = true → g.contains id = true

theorem Ages.refl (g : Graph) : Ages g g :=
  ⟨fun _ h => h, fun _ _ h => h⟩

theorem Ages.trans (h : Ages g g') (h' : Ages g' g'') : Ages g g'' where
  known id hid := h'.known id (h.known id hid)
  stale id hid hlive := h.stale id hid (h'.stale id (h.known id hid) hlive)

/-! ## Slots in order -/

/-- The slots, the free list and the counter agree. -/
structure SlotsOrdered (g : Graph) : Prop where
  nodup_free : g.free.Nodup
  mem_free_iff : ∀ i : Nat, i ∈ g.free ↔ ∃ slot, g.slots[i]? = some slot ∧ slot.machine = none
  odd_iff : ∀ (i : Nat) (slot : Slot), g.slots[i]? = some slot → (slot.machine.isSome = true ↔ slot.generation % 2 = 1)
  live_eq : g.live = g.handles.length

theorem slotsOrdered_empty : SlotsOrdered empty where
  nodup_free := List.nodup_nil
  mem_free_iff i := by simp [empty]
  odd_iff i slot h := by simp [empty] at h
  live_eq := rfl

/-! ### A change of one machine -/

theorem getElem?_update (g : Graph) (id : MachineId) (f : Machine → Machine) (i : Nat) :
    (g.update id f).slots[i]? = g.slots[i]? ∨
      ∃ n m, g.slots[i]? = some ⟨n, some m⟩ ∧
        (g.update id f).slots[i]? = some ⟨n, some (f m)⟩ := by
  unfold update
  split
  · rename_i hlive
    obtain ⟨m, hm⟩ := contains_iff.1 hlive
    rw [find?_eq_some_iff] at hm
    by_cases hi : id.index = i
    · subst hi
      exact .inr ⟨id.generation, m, hm, by simp [Array.getElem?_modify, hm]⟩
    · exact .inl (by simp [Array.getElem?_modify, hi])
  · exact .inl rfl

theorem contains_update (g : Graph) (id other : MachineId) (f : Machine → Machine) :
    (g.update id f).contains other = g.contains other := by
  simp only [contains, find?_update]
  split
  · rename_i h
    subst h
    exact Option.isSome_map
  · rfl

theorem ages_update (g : Graph) (id : MachineId) (f : Machine → Machine) :
    Ages g (g.update id f) where
  known other := by
    rintro ⟨slot, hs, hle⟩
    rcases getElem?_update g id f other.index with h | ⟨n, m, hs', h⟩
    · exact ⟨slot, h.trans hs, hle⟩
    · rw [hs] at hs'
      cases hs'
      exact ⟨_, h, hle⟩
  stale other _ h := by rwa [contains_update] at h

theorem handles_update (g : Graph) (id : MachineId) (f : Machine → Machine) :
    (g.update id f).handles.length = g.handles.length := by
  refine List.Perm.length_eq ((List.perm_ext_iff_of_nodup nodup_handles nodup_handles).2 ?_)
  intro other
  rw [mem_handles_iff, mem_handles_iff, contains_update]

theorem SlotsOrdered.update (h : g.SlotsOrdered) (id : MachineId) (f : Machine → Machine) :
    (g.update id f).SlotsOrdered := by
  have hfree : (g.update id f).free = g.free := by unfold Graph.update; split <;> rfl
  have hlive : (g.update id f).live = g.live := by unfold Graph.update; split <;> rfl
  refine ⟨hfree ▸ h.nodup_free, ?_, ?_, ?_⟩
  · intro i
    rw [hfree, h.mem_free_iff]
    rcases getElem?_update g id f i with hi | ⟨n, m, hi, hi'⟩
    · rw [hi]
    · simp [hi, hi']
  · intro i slot hs
    rcases getElem?_update g id f i with hi | ⟨n, m, hi, hi'⟩
    · exact h.odd_iff i slot (hi ▸ hs)
    · rw [hi'] at hs
      cases hs
      simpa using h.odd_iff i _ hi
  · rw [hlive, handles_update, h.live_eq]

/-! ### A new machine -/

/-- What a new machine looks like. -/
def bare (name : String) (control : Option Control) : Machine := { name, control }

theorem SlotsOrdered.slot_of_free (h : g.SlotsOrdered) {i : Nat} {rest : List Nat}
    (hfree : g.free = i :: rest) : ∃ n, g.slots[i]? = some ⟨n, none⟩ := by
  have hi : i ∈ g.free := by rw [hfree]; exact List.mem_cons_self
  obtain ⟨⟨n, occupant⟩, hs, hnone⟩ := (h.mem_free_iff i).1 hi
  exact ⟨n, by rw [hs, ← hnone]⟩

theorem create_of_nil (name : String) (control : Option Control) (hfree : g.free = []) :
    g.create name control =
      (⟨g.slots.size, 1⟩,
        { g with slots := g.slots.push ⟨1, some (bare name control)⟩, live := g.live + 1 }) := by
  simp [create, hfree, bare]

theorem create_of_cons (name : String) (control : Option Control) {i n : Nat} {rest : List Nat}
    (hfree : g.free = i :: rest) (hi : g.slots[i]? = some ⟨n, none⟩) :
    g.create name control =
      (⟨i, n + 1⟩,
        { slots := g.slots.setIfInBounds i ⟨n + 1, some (bare name control)⟩
          free := rest
          live := g.live + 1 }) := by
  simp [create, hfree, bare, hi]

theorem SlotsOrdered.not_known_create (h : g.SlotsOrdered) (name : String)
    (control : Option Control) : ¬ g.Known (g.create name control).1 := by
  rintro ⟨slot, hs, hle⟩
  cases hfree : g.free with
  | nil => simp [create_of_nil name control hfree] at hs
  | cons i rest =>
    obtain ⟨n, hi⟩ := h.slot_of_free hfree
    rw [create_of_cons name control hfree hi] at hs hle
    rw [hi] at hs
    cases hs
    exact Nat.not_succ_le_self n hle

/-- The new handle names the new machine, and all others name what they named before. -/
theorem SlotsOrdered.find?_create (h : g.SlotsOrdered) (name : String) (control : Option Control)
    (id : MachineId) :
    (g.create name control).2.find? id =
      if id = (g.create name control).1 then some (bare name control) else g.find? id := by
  obtain ⟨j, k⟩ := id
  cases hfree : g.free with
  | nil =>
    rw [create_of_nil name control hfree]
    by_cases hj : j = g.slots.size
    · subst hj
      by_cases hk : k = 1
      · simp [find?, hk]
      · simp [find?, hk, Ne.symm hk]
    · simp [find?, Array.getElem?_push, hj]
  | cons i rest =>
    obtain ⟨n, hi⟩ := h.slot_of_free hfree
    rw [create_of_cons name control hfree hi]
    obtain ⟨hlt, hget⟩ := Array.getElem?_eq_some_iff.1 hi
    by_cases hj : j = i
    · subst hj
      by_cases hk : k = n + 1
      · simp [find?, hk, hlt]
      · simp [find?, hget, hk, Ne.symm hk, hlt]
    · simp [find?, hj, Ne.symm hj]

theorem SlotsOrdered.find?_create_self (h : g.SlotsOrdered) (name : String)
    (control : Option Control) :
    (g.create name control).2.find? (g.create name control).1 = some (bare name control) := by
  rw [h.find?_create, if_pos rfl]

theorem SlotsOrdered.not_contains_create (h : g.SlotsOrdered) (name : String)
    (control : Option Control) : g.contains (g.create name control).1 = false :=
  Bool.eq_false_iff.2 fun hlive => h.not_known_create name control (.of_contains hlive)

theorem SlotsOrdered.find?_create_of_contains (h : g.SlotsOrdered) (name : String)
    (control : Option Control) (hid : g.contains id = true) :
    (g.create name control).2.find? id = g.find? id := by
  rw [h.find?_create, if_neg]
  rintro rfl
  rw [h.not_contains_create] at hid
  cases hid

theorem SlotsOrdered.contains_create (h : g.SlotsOrdered) (name : String)
    (control : Option Control) :
    (g.create name control).2.contains id = true ↔
      id = (g.create name control).1 ∨ g.contains id = true := by
  rw [contains, h.find?_create]
  split <;> simp_all [contains]

theorem SlotsOrdered.ages_create (h : g.SlotsOrdered) (name : String) (control : Option Control) :
    Ages g (g.create name control).2 where
  known id := by
    rintro ⟨slot, hs, hle⟩
    obtain ⟨hlt, hget⟩ := Array.getElem?_eq_some_iff.1 hs
    cases hfree : g.free with
    | nil =>
      rw [create_of_nil name control hfree]
      exact ⟨slot, by rw [Array.getElem?_push_lt hlt, hget], hle⟩
    | cons i rest =>
      obtain ⟨n, hi⟩ := h.slot_of_free hfree
      rw [create_of_cons name control hfree hi]
      by_cases hj : id.index = i
      · subst hj
        rw [hi] at hs
        cases hs
        exact ⟨⟨n + 1, some (bare name control)⟩, by simp [hlt], Nat.le_succ_of_le hle⟩
      · exact ⟨slot, by simp [hs, Ne.symm hj], hle⟩
  stale id hid hlive := by
    rcases (h.contains_create name control).1 hlive with rfl | hold
    · exact absurd hid (h.not_known_create name control)
    · exact hold

theorem SlotsOrdered.create_at_end (h : g.SlotsOrdered) (name : String) (control : Option Control)
    (hfree : g.free = []) : (g.create name control).2.SlotsOrdered := by
  rw [create_of_nil name control hfree]
  refine ⟨hfree ▸ List.nodup_nil, ?_, ?_, ?_⟩
  · intro i
    have hi := h.mem_free_iff i
    simp only [Array.getElem?_push, hi]
    constructor
    · rintro ⟨slot, hs, hnone⟩
      have hne : i ≠ g.slots.size := by
        intro heq
        simp [heq] at hs
      exact ⟨slot, by rw [if_neg hne, hs], hnone⟩
    · rintro ⟨slot, hs, hnone⟩
      split at hs
      · cases hs
        cases hnone
      · exact ⟨slot, hs, hnone⟩
  · intro i slot hs
    simp only [Array.getElem?_push] at hs
    split at hs
    · cases hs
      exact ⟨fun _ => rfl, fun _ => rfl⟩
    · exact h.odd_iff i slot hs
  · simp [length_handles, h.live_eq]

theorem SlotsOrdered.create_in_free (h : g.SlotsOrdered) (name : String) (control : Option Control)
    {i : Nat} {rest : List Nat} (hfree : g.free = i :: rest) :
    (g.create name control).2.SlotsOrdered := by
  obtain ⟨n, hi⟩ := h.slot_of_free hfree
  rw [create_of_cons name control hfree hi]
  obtain ⟨hlt, hget⟩ := Array.getElem?_eq_some_iff.1 hi
  obtain ⟨hirest, hrest⟩ := List.nodup_cons.1 (hfree ▸ h.nodup_free)
  refine ⟨hrest, ?_, ?_, ?_⟩
  · intro j
    have hj := h.mem_free_iff j
    rw [hfree, List.mem_cons] at hj
    by_cases hij : i = j
    · subst hij
      simp [hlt, hirest]
    · simp only [Array.getElem?_setIfInBounds, hij, if_false, ← hj]
      exact ⟨.inr, fun h => h.resolve_left (Ne.symm hij)⟩
  · intro j slot hs
    by_cases hij : i = j
    · subst hij
      simp only [Array.getElem?_setIfInBounds_self_of_lt hlt, Option.some.injEq] at hs
      subst hs
      have hodd := h.odd_iff i _ hi
      simp only [Option.isSome_none, Bool.false_eq_true, false_iff] at hodd
      simp only [Option.isSome_some, true_iff]
      omega
    · simp only [Array.getElem?_setIfInBounds, hij, if_false] at hs
      exact h.odd_iff j slot hs
  · simp [length_handles, h.live_eq, Array.setIfInBounds, hlt, Array.countP_set, hget]

theorem SlotsOrdered.create (h : g.SlotsOrdered) (name : String) (control : Option Control) :
    (g.create name control).2.SlotsOrdered := by
  cases hfree : g.free with
  | nil => exact h.create_at_end name control hfree
  | cons i rest => exact h.create_in_free name control hfree

/-! ### Releasing machines -/

theorem mem_handles_of_mem_descendants {roots : List MachineId} (h : id ∈ g.descendants roots) :
    id ∈ g.handles :=
  Search.preorder_subset h

/-- A machine below a root stays, without its back-links from machines that go; all others go. -/
theorem find?_retain (g : Graph) (roots : List MachineId) (id : MachineId) :
    (g.retain roots).2.find? id =
      if id ∈ g.descendants roots then
        (g.find? id).map (·.keepParents fun link => link.parent ∈ g.descendants roots)
      else none := by
  obtain ⟨i, k⟩ := id
  simp only [retain, find?, Array.getElem?_mapIdx]
  cases hs : g.slots[i]? with
  | none => simp
  | some slot =>
    obtain ⟨n, occupant⟩ := slot
    cases occupant with
    | none => simp [releaseSlot]
    | some m =>
      by_cases hk : n = k
      · subst hk
        by_cases hkept : (⟨i, n⟩ : MachineId) ∈ g.descendants roots <;> simp [releaseSlot, hkept]
      · by_cases hkept : (⟨i, n⟩ : MachineId) ∈ g.descendants roots <;>
          simp [releaseSlot, hkept, hk]

theorem contains_retain (g : Graph) (roots : List MachineId) (id : MachineId) :
    (g.retain roots).2.contains id = true ↔ id ∈ g.descendants roots := by
  rw [contains, find?_retain]
  split
  · rename_i h
    have hlive := mem_handles_iff.1 (mem_handles_of_mem_descendants h)
    rw [contains] at hlive
    simp [h, hlive]
  · rename_i h
    simp [h]

theorem getElem?_retain (g : Graph) (roots : List MachineId) (i : Nat) :
    (g.retain roots).2.slots[i]? = (g.slots[i]?).map (releaseSlot (g.descendants roots) i) := by
  simp [retain, Array.getElem?_mapIdx]

theorem le_generation_releaseSlot (kept : List MachineId) (i : Nat) (slot : Slot) :
    slot.generation ≤ (releaseSlot kept i slot).generation := by
  unfold releaseSlot
  split
  · exact Nat.le_refl _
  · split
    · exact Nat.le_refl _
    · exact Nat.le_succ _

theorem ages_retain (g : Graph) (roots : List MachineId) : Ages g (g.retain roots).2 where
  known id := by
    rintro ⟨slot, hs, hle⟩
    exact ⟨_, by rw [getElem?_retain, hs]; rfl,
      Nat.le_trans hle (le_generation_releaseSlot _ _ _)⟩
  stale id _ h :=
    mem_handles_iff.1 (mem_handles_of_mem_descendants ((contains_retain g roots id).1 h))

theorem machine_releaseSlot_eq_none {kept : List MachineId} {i : Nat} {slot : Slot} :
    (releaseSlot kept i slot).machine = none ↔
      slot.machine = none ∨ (⟨i, slot.generation⟩ : MachineId) ∉ kept := by
  unfold releaseSlot
  split
  · rename_i h
    simp [h]
  · rename_i m h
    split
    · rename_i hkept
      simp [h, hkept]
    · rename_i hkept
      simp [hkept]

/-- A slot that is occupied exactly when its generation is odd still is after release. -/
theorem odd_releaseSlot {kept : List MachineId} {i : Nat} {slot : Slot}
    (h : slot.machine.isSome = true ↔ slot.generation % 2 = 1) :
    (releaseSlot kept i slot).machine.isSome = true ↔ (releaseSlot kept i slot).generation % 2 = 1 := by
  obtain ⟨n, occupant⟩ := slot
  cases occupant with
  | none => simpa [releaseSlot] using h
  | some m =>
    by_cases hkept : (⟨i, n⟩ : MachineId) ∈ kept
    · simpa [releaseSlot, hkept] using h
    · simp only [Option.isSome_some, true_iff] at h
      simp only [releaseSlot, hkept, if_false, Option.isSome_none, Bool.false_eq_true, false_iff]
      omega

theorem mem_free_retain {roots : List MachineId} {i : Nat} :
    i ∈ (g.retain roots).2.free ↔
      (∃ id, (g.contains id = true ∧ id ∉ g.descendants roots) ∧ id.index = i) ∨ i ∈ g.free := by
  have hfree : (g.retain roots).2.free =
      ((g.handles.filter fun id => id ∉ g.descendants roots).map (·.index)).reverse ++ g.free := rfl
  simp only [hfree, List.mem_append, List.mem_reverse, List.mem_map, List.mem_filter,
    decide_eq_true_eq, mem_handles_iff]

theorem SlotsOrdered.nodup_free_retain (h : g.SlotsOrdered) (roots : List MachineId) :
    (g.retain roots).2.free.Nodup := by
  have hfreed : (((g.handles.filter fun id => id ∉ g.descendants roots).map (·.index)).reverse).Nodup :=
    List.nodup_reverse.2 (nodup_index_handles.sublist (List.filter_sublist.map _))
  refine List.Nodup.append hfreed h.nodup_free ?_
  intro i hi hfree
  obtain ⟨id, hid, rfl⟩ := List.mem_map.1 (List.mem_reverse.1 hi)
  obtain ⟨m, hm⟩ := contains_iff.1 (mem_handles_iff.1 (List.mem_of_mem_filter hid))
  obtain ⟨slot, hs, hnone⟩ := (h.mem_free_iff _).1 hfree
  rw [find?_eq_some_iff.1 hm] at hs
  cases hs
  cases hnone

/-- The machines that go are those that the counter goes down by. -/
theorem SlotsOrdered.live_retain (h : g.SlotsOrdered) (roots : List MachineId) :
    (g.retain roots).2.live = (g.retain roots).2.handles.length := by
  have hlive : (g.retain roots).2.live =
      g.live - (g.handles.filter fun id => id ∉ g.descendants roots).length := rfl
  have hkept : (g.retain roots).2.handles.length =
      (g.handles.filter fun id => id ∈ g.descendants roots).length := by
    refine List.Perm.length_eq
      ((List.perm_ext_iff_of_nodup nodup_handles (nodup_handles.filter _)).2 fun id => ?_)
    rw [mem_handles_iff, contains_retain, List.mem_filter]
    simp only [decide_eq_true_eq, iff_and_self]
    exact mem_handles_of_mem_descendants
  have hsplit := List.length_eq_length_filter_add (l := g.handles)
    fun id => decide (id ∈ g.descendants roots)
  simp only [← decide_not] at hsplit
  rw [hlive, hkept, h.live_eq]
  omega

theorem SlotsOrdered.retain (h : g.SlotsOrdered) (roots : List MachineId) :
    (g.retain roots).2.SlotsOrdered where
  nodup_free := h.nodup_free_retain roots
  mem_free_iff i := by
    rw [mem_free_retain, h.mem_free_iff, getElem?_retain]
    simp only [Option.map_eq_some_iff]
    constructor
    · rintro (⟨id, ⟨hlive, hgone⟩, rfl⟩ | ⟨slot, hs, hnone⟩)
      · obtain ⟨m, hm⟩ := contains_iff.1 hlive
        exact ⟨_, ⟨_, find?_eq_some_iff.1 hm, rfl⟩, machine_releaseSlot_eq_none.2 (.inr hgone)⟩
      · exact ⟨_, ⟨slot, hs, rfl⟩, machine_releaseSlot_eq_none.2 (.inl hnone)⟩
    · rintro ⟨_, ⟨⟨n, occupant⟩, hs, rfl⟩, hnone⟩
      cases occupant with
      | none => exact .inr ⟨_, hs, rfl⟩
      | some m =>
        have hgone := (machine_releaseSlot_eq_none.1 hnone).resolve_left (by simp)
        have hlive : g.find? ⟨i, n⟩ = some m := find?_eq_some_iff.2 hs
        exact .inl ⟨⟨i, n⟩, ⟨contains_of_find? hlive, hgone⟩, rfl⟩
  odd_iff i slot hs := by
    rw [getElem?_retain, Option.map_eq_some_iff] at hs
    obtain ⟨slot, hs, rfl⟩ := hs
    exact odd_releaseSlot (h.odd_iff i slot hs)
  live_eq := h.live_retain roots

end MeaningGraph.Graph
