/-
# Copies: what a copied tree is made of

Copying the tree below a live machine never fails.  `Copied g g' root copy pairs` says what comes of it:
`pairs` lists the machines of the tree with their copies, the copies are distinct and were never given out
before, a copy has the name and control of its machine and the machine's links drawn among the copies, and
nothing else changed.

    g'.Holds x j y  ↔  g.Holds x j y  ∨  x and y are copies of a and b with g.Holds a j b

The same equivalence holds of the back-links, and the two together keep the links consistent.
-/
import MeaningGraph.Graph.Copy
import MeaningGraph.Proofs.Graph.Links

namespace MeaningGraph.Graph

variable {g g' : Graph} {root copy a b x y : MachineId} {j : Nat}
  {pairs : List (MachineId × MachineId)}

/-! ## Looking up a copy -/

theorem mem_of_copyOf? (h : copyOf? pairs a = some b) : (a, b) ∈ pairs := by
  induction pairs with
  | nil => cases h
  | cons pair pairs ih =>
    obtain ⟨k, v⟩ := pair
    rw [copyOf?, List.lookup_cons] at h
    by_cases hk : a = k
    · subst hk
      simp only [beq_self_eq_true, Option.some.injEq] at h
      exact h ▸ List.mem_cons_self
    · rw [beq_false_of_ne hk] at h
      exact List.mem_cons_of_mem _ (ih h)

theorem copyOf?_of_mem (hnodup : (pairs.map (·.1)).Nodup) (h : (a, b) ∈ pairs) :
    copyOf? pairs a = some b := by
  induction pairs with
  | nil => cases h
  | cons pair pairs ih =>
    obtain ⟨k, v⟩ := pair
    obtain ⟨hk, hrest⟩ := List.nodup_cons.1 hnodup
    rw [copyOf?, List.lookup_cons]
    rcases List.mem_cons.1 h with heq | h
    · cases heq
      simp
    · have hne : a ≠ k := fun hak => hk (List.mem_map.2 ⟨(a, b), h, hak⟩)
      rw [beq_false_of_ne hne]
      exact ih hrest h

theorem eq_of_mem_of_mem (hnodup : (pairs.map (·.2)).Nodup) (ha : (a, x) ∈ pairs)
    (hb : (b, x) ∈ pairs) : a = b := by
  have h := List.inj_on_of_nodup_map hnodup ha hb rfl
  exact congrArg Prod.fst h

/-! ## A machine among copies -/

theorem part_relabel (pairs : List (MachineId × MachineId)) (m : Machine) (q : Nat) :
    (relabel pairs m).part q = (m.part q).filterMap (copyOf? pairs) := by
  simp only [Machine.part, relabel, List.getD_eq_getElem?_getD, List.getElem?_map]
  cases m.parts[q]? <;> simp

theorem mem_part_relabel {m : Machine} {q : Nat} :
    y ∈ (relabel pairs m).part q ↔ ∃ b ∈ m.part q, copyOf? pairs b = some y := by
  rw [part_relabel, List.mem_filterMap]

theorem mem_parents_relabel {m : Machine} :
    ⟨x, j⟩ ∈ (relabel pairs m).parents ↔ ∃ a, ⟨a, j⟩ ∈ m.parents ∧ copyOf? pairs a = some x := by
  simp only [relabel, SortedList.mem_ofList, List.mem_filterMap, Option.map_eq_some_iff,
    Link.mk.injEq]
  constructor
  · rintro ⟨⟨a, i⟩, hmem, _, hcopy, rfl, rfl⟩
    exact ⟨a, hmem, hcopy⟩
  · rintro ⟨a, hmem, hcopy⟩
    exact ⟨⟨a, j⟩, hmem, x, hcopy, rfl, rfl⟩

/-! ## What a copy is made of -/

/-- `g'` is `g` with a copy of the tree below `root`, whose root is `copy`. -/
structure Copied (g g' : Graph) (root copy : MachineId) (pairs : List (MachineId × MachineId)) :
    Prop where
  originals : pairs.map (·.1) = g.descendants [root]
  nodup_copies : (pairs.map (·.2)).Nodup
  fresh : ∀ a b, (a, b) ∈ pairs → ¬ g.Known b
  root_mem : (root, copy) ∈ pairs
  find?_copy : ∀ a b, (a, b) ∈ pairs → g'.find? b = (g.find? a).map (relabel pairs)
  find?_other : ∀ id, (∀ a, (a, id) ∉ pairs) → g'.find? id = g.find? id
  slots : g'.SlotsOrdered
  ages : Ages g g'

theorem Copied.find?_original (h : Copied g g' root copy pairs) (hab : (a, b) ∈ pairs) :
    ∃ m, g.find? a = some m := by
  have ha : a ∈ g.descendants [root] := h.originals ▸ List.mem_map_of_mem hab
  exact contains_iff.1 (mem_handles_iff.1 (mem_handles_of_mem_descendants ha))

theorem Copied.nodup_originals (h : Copied g g' root copy pairs) : (pairs.map (·.1)).Nodup :=
  h.originals ▸ Search.nodup_preorder nodup_handles

theorem Copied.not_contains (h : Copied g g' root copy pairs) (hab : (a, b) ∈ pairs) :
    g.contains b = false :=
  Bool.eq_false_iff.2 fun hlive => h.fresh a b hab (.of_contains hlive)

theorem Copied.find?_old (h : Copied g g' root copy pairs) {id : MachineId}
    (hid : g.contains id = true) : g'.find? id = g.find? id := by
  refine h.find?_other id fun a hmem => ?_
  rw [h.not_contains hmem] at hid
  cases hid

theorem Copied.holds_iff (h : Copied g g' root copy pairs) :
    g'.Holds x j y ↔
      g.Holds x j y ∨ ∃ a b, (a, x) ∈ pairs ∧ (b, y) ∈ pairs ∧ g.Holds a j b := by
  by_cases hx : ∃ a, (a, x) ∈ pairs
  · obtain ⟨a, hax⟩ := hx
    obtain ⟨m, hm⟩ := h.find?_original hax
    have hx' : g'.find? x = some (relabel pairs m) := by rw [h.find?_copy a x hax, hm]; rfl
    rw [holds_iff_of_find? hx', mem_part_relabel]
    constructor
    · rintro ⟨b, hb, hcopy⟩
      exact .inr ⟨a, b, hax, mem_of_copyOf? hcopy, m, hm, hb⟩
    · rintro (hold | ⟨a', b, hax', hby, hhold⟩)
      · have hlive := hold.contains
        rw [h.not_contains hax] at hlive
        cases hlive
      · obtain rfl := eq_of_mem_of_mem h.nodup_copies hax hax'
        rw [holds_iff_of_find? hm] at hhold
        exact ⟨b, hhold, copyOf?_of_mem h.nodup_originals hby⟩
  · simp only [Holds, h.find?_other x fun a ha => hx ⟨a, ha⟩]
    refine ⟨.inl, ?_⟩
    rintro (hold | ⟨a, b, hax, -⟩)
    · exact hold
    · exact absurd ⟨a, hax⟩ hx

theorem Copied.heldBy_iff (h : Copied g g' root copy pairs) :
    g'.HeldBy y x j ↔
      g.HeldBy y x j ∨ ∃ a b, (a, x) ∈ pairs ∧ (b, y) ∈ pairs ∧ g.HeldBy b a j := by
  by_cases hy : ∃ b, (b, y) ∈ pairs
  · obtain ⟨b, hby⟩ := hy
    obtain ⟨m, hm⟩ := h.find?_original hby
    have hy' : g'.find? y = some (relabel pairs m) := by rw [h.find?_copy b y hby, hm]; rfl
    rw [heldBy_iff_of_find? hy', mem_parents_relabel]
    constructor
    · rintro ⟨a, ha, hcopy⟩
      exact .inr ⟨a, b, mem_of_copyOf? hcopy, hby, m, hm, ha⟩
    · rintro (hold | ⟨a, b', hax, hby', hheld⟩)
      · have hlive := hold.contains
        rw [h.not_contains hby] at hlive
        cases hlive
      · obtain rfl := eq_of_mem_of_mem h.nodup_copies hby hby'
        rw [heldBy_iff_of_find? hm] at hheld
        exact ⟨a, hheld, copyOf?_of_mem h.nodup_originals hax⟩
  · simp only [HeldBy, h.find?_other y fun b hb => hy ⟨b, hb⟩]
    refine ⟨.inl, ?_⟩
    rintro (hold | ⟨a, b, -, hby, -⟩)
    · exact hold
    · exact absurd ⟨b, hby⟩ hy

/-- A property that the machines had and that survives drawing the links among copies. -/
theorem Copied.forall_find? (h : Copied g g' root copy pairs) {P : Machine → Prop}
    (hP : ∀ id m, g.find? id = some m → P m) (hrel : ∀ m, P m → P (relabel pairs m)) :
    ∀ id m, g'.find? id = some m → P m := by
  intro id m hm
  by_cases hid : ∃ a, (a, id) ∈ pairs
  · obtain ⟨a, ha⟩ := hid
    rw [h.find?_copy a id ha] at hm
    obtain ⟨m₀, hm₀, rfl⟩ := Option.map_eq_some_iff.1 hm
    exact hrel m₀ (hP a m₀ hm₀)
  · rw [h.find?_other id fun a ha => hid ⟨a, ha⟩] at hm
    exact hP id m hm

theorem Copied.evolves (h : Copied g g' root copy pairs) (hg : g.Sound) : Evolves g g' where
  ages := h.ages
  names id name hid hname := by
    have hother : ∀ a, (a, id) ∉ pairs := by
      intro a ha
      exact h.fresh a id ha hid
    rwa [name?, h.find?_other id hother] at hname
  sound :=
    { slots := h.slots
      links :=
        { parts_ne_nil := h.forall_find? (P := fun m => m.parts ≠ []) hg.links.parts_ne_nil
            fun m hm => by simpa [relabel] using hm
          nodup_part := h.forall_find? (P := fun m => ∀ i, (m.part i).Nodup) hg.links.nodup_part
            fun m hm i => by
              rw [part_relabel]
              refine (hm i).filterMap ?_
              intro a a' b ha ha'
              exact eq_of_mem_of_mem h.nodup_copies (mem_of_copyOf? ha) (mem_of_copyOf? ha')
          holds_iff := fun p i c => by
            rw [h.holds_iff, h.heldBy_iff]
            simp only [hg.links.holds_iff] } }

/-! ## Copying -/

/-- The machines are duplicated one by one, each as a bare machine of its name and control. -/
structure Duplicated (g g' : Graph) (ids : List MachineId) (pairs : List (MachineId × MachineId)) :
    Prop where
  originals : pairs.map (·.1) = ids
  nodup_copies : (pairs.map (·.2)).Nodup
  fresh : ∀ a b, (a, b) ∈ pairs → ¬ g.Known b
  contains_copy : ∀ a b, (a, b) ∈ pairs → g'.contains b = true
  find?_other : ∀ id, (∀ a, (a, id) ∉ pairs) → g'.find? id = g.find? id
  evolves : Evolves g g'

theorem Sound.duplicated (h : g.Sound) {ids : List MachineId} (hids : ∀ id ∈ ids, g.contains id = true) :
    Duplicated g (g.duplicate ids).2 ids (g.duplicate ids).1 := by
  induction ids generalizing g with
  | nil =>
    exact ⟨rfl, List.nodup_nil, fun _ _ h => (List.not_mem_nil h).elim,
      fun _ _ h => (List.not_mem_nil h).elim, fun _ _ => rfl, h.evolves_refl⟩
  | cons id ids ih =>
    obtain ⟨m, hm⟩ := contains_iff.1 (hids id List.mem_cons_self)
    have hstep : g.duplicate (id :: ids) =
        ((id, (g.create m.name m.control).1) :: ((g.create m.name m.control).2.duplicate ids).1,
          ((g.create m.name m.control).2.duplicate ids).2) := by
      rw [duplicate, hm]
    have hcreate := h.evolves_create m.name m.control
    have hrest := ih hcreate.sound fun other hother =>
      (h.slots.contains_create ..).2 (.inr (hids other (List.mem_cons_of_mem _ hother)))
    generalize hc : (g.create m.name m.control).1 = c at *
    generalize hg₁ : (g.create m.name m.control).2 = g₁ at *
    have hknown : g₁.Known c := .of_contains (by
      rw [← hg₁, ← hc, h.slots.contains_create]
      exact .inl rfl)
    have hfresh : ∀ a, (a, c) ∉ (g₁.duplicate ids).1 := fun a ha => hrest.fresh a c ha hknown
    rw [hstep]
    refine ⟨by simp [hrest.originals], ?_, ?_, ?_, ?_, hcreate.trans hrest.evolves⟩
    · refine List.nodup_cons.2 ⟨?_, hrest.nodup_copies⟩
      intro hmem
      obtain ⟨⟨a, b⟩, hab, rfl⟩ := List.mem_map.1 hmem
      exact hfresh a hab
    · intro a b hab
      rcases List.mem_cons.1 hab with heq | hab
      · cases heq
        exact hc ▸ h.slots.not_known_create m.name m.control
      · exact fun hk => hrest.fresh a b hab (hcreate.ages.known b hk)
    · intro a b hab
      rcases List.mem_cons.1 hab with heq | hab
      · cases heq
        rw [contains, hrest.find?_other c hfresh, ← hg₁, ← hc, h.slots.find?_create_self]
        rfl
      · exact hrest.contains_copy a b hab
    · intro other hother
      rw [hrest.find?_other other fun a ha => hother a (List.mem_cons_of_mem _ ha), ← hg₁,
        h.slots.find?_create, if_neg]
      rw [hc]
      rintro rfl
      exact hother id List.mem_cons_self

theorem find?_drawLinks_other {old : Graph} {done : List (MachineId × MachineId)} {id : MachineId}
    (h : ∀ a, (a, id) ∉ done) :
    (done.foldl (fun g pair =>
      match old.find? pair.1 with
      | some m => g.update pair.2 fun _ => relabel pairs m
      | none => g) g).find? id = g.find? id := by
  induction done generalizing g with
  | nil => rfl
  | cons pair done ih =>
    obtain ⟨a, b⟩ := pair
    rw [List.foldl_cons, ih fun a' ha' => h a' (List.mem_cons_of_mem _ ha')]
    have hne : id ≠ b := fun hid => h a (hid ▸ List.mem_cons_self)
    cases old.find? a with
    | none => rfl
    | some m => simp [find?_update, hne]

theorem find?_drawLinks {old : Graph} {done : List (MachineId × MachineId)} {m : Machine}
    (hnodup : (done.map (·.2)).Nodup) (hab : (a, b) ∈ done) (hm : old.find? a = some m)
    (hlive : g.contains b = true) :
    (done.foldl (fun g pair =>
      match old.find? pair.1 with
      | some m => g.update pair.2 fun _ => relabel pairs m
      | none => g) g).find? b = some (relabel pairs m) := by
  induction done generalizing g with
  | nil => cases hab
  | cons pair done ih =>
    obtain ⟨hb, hrest⟩ := List.nodup_cons.1 hnodup
    rw [List.foldl_cons]
    rcases List.mem_cons.1 hab with rfl | hab
    · rw [find?_drawLinks_other fun a' ha' => hb (List.mem_map.2 ⟨(a', b), ha', rfl⟩)]
      obtain ⟨m', hm'⟩ := contains_iff.1 hlive
      simp [hm, find?_update, hm']
    · refine ih hrest hab ?_
      cases old.find? pair.1 with
      | none => exact hlive
      | some m' => exact (contains_update ..).trans hlive

theorem drawLinks_keeps {old : Graph} {done : List (MachineId × MachineId)} {P : Graph → Prop}
    (hP : ∀ g id f, P g → P (g.update id f)) (hg : P g) :
    P (done.foldl (fun g pair =>
      match old.find? pair.1 with
      | some m => g.update pair.2 fun _ => relabel pairs m
      | none => g) g) := by
  induction done generalizing g with
  | nil => exact hg
  | cons pair done ih =>
    rw [List.foldl_cons]
    refine ih ?_
    cases old.find? pair.1 with
    | none => exact hg
    | some m => exact hP _ _ _ hg

theorem Duplicated.copied {g₁ : Graph} (h : Duplicated g g₁ (g.descendants [root]) pairs)
    (hroot : (root, copy) ∈ pairs) : Copied g (drawLinks g pairs g₁) root copy pairs where
  originals := h.originals
  nodup_copies := h.nodup_copies
  fresh := h.fresh
  root_mem := hroot
  find?_copy a b hab := by
    have ha : a ∈ g.descendants [root] := h.originals ▸ List.mem_map.2 ⟨(a, b), hab, rfl⟩
    obtain ⟨m, hm⟩ := contains_iff.1 (mem_handles_iff.1 (mem_handles_of_mem_descendants ha))
    rw [hm]
    exact find?_drawLinks h.nodup_copies hab hm (h.contains_copy a b hab)
  find?_other id hid := (find?_drawLinks_other hid).trans (h.find?_other id hid)
  slots := drawLinks_keeps (fun _ id f hg => hg.update id f) h.evolves.sound.slots
  ages := drawLinks_keeps (P := Ages g) (fun g' id f hg => hg.trans (ages_update g' id f)) h.evolves.ages

/-- The machines below a root, each with the copy that is made of it. -/
def copies (g : Graph) (root : MachineId) : List (MachineId × MachineId) :=
  (g.duplicate (g.descendants [root])).1

/-- A live machine can be copied. -/
theorem Sound.copied (h : g.Sound) (hroot : g.contains root = true) :
    ∃ copy g', g.deepCopy root = .ok (copy, g') ∧ Copied g g' root copy (g.copies root) := by
  obtain ⟨m, hm⟩ := contains_iff.1 hroot
  have hspec : Duplicated g (g.duplicate (g.descendants [root])).2 (g.descendants [root])
      (g.copies root) :=
    h.duplicated fun id hid => mem_handles_iff.1 (mem_handles_of_mem_descendants hid)
  have hnodup : ((g.copies root).map (·.1)).Nodup :=
    hspec.originals ▸ Search.nodup_preorder nodup_handles
  have hmem : root ∈ (g.copies root).map (·.1) :=
    hspec.originals ▸ Search.mem_preorder_of_pending List.mem_cons_self (mem_handles_iff.2 hroot)
  obtain ⟨⟨_, copy⟩, hpair, rfl⟩ := List.mem_map.1 hmem
  refine ⟨copy, _, ?_, hspec.copied hpair⟩
  have hcopy : copyOf? (g.duplicate (g.descendants [_])).1 _ = some copy :=
    copyOf?_of_mem hnodup hpair
  rw [deepCopy, tree, get_of_find? hm]
  simp only [bind, Except.bind, pure, Except.pure, hcopy]
  rfl

theorem contains_of_deepCopy (hcopy : g.deepCopy root = .ok (copy, g')) : g.contains root = true := by
  by_contra hdead
  rw [deepCopy, tree, get_of_not_contains (Bool.eq_false_iff.2 hdead)] at hcopy
  cases hcopy

theorem Sound.deepCopy_cases (h : g.Sound) (hcopy : g.deepCopy root = .ok (copy, g')) :
    Copied g g' root copy (g.copies root) := by
  obtain ⟨copy', g'', heq, hspec⟩ := h.copied (contains_of_deepCopy hcopy)
  rw [hcopy] at heq
  cases heq
  exact hspec

theorem Sound.evolves_deepCopy (h : g.Sound) (hcopy : g.deepCopy root = .ok (copy, g')) :
    Evolves g g' :=
  (h.deepCopy_cases hcopy).evolves h

end MeaningGraph.Graph
