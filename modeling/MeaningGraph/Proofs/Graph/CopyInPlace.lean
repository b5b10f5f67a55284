/-
# Copying in place

`deepCopy` makes all copies first and draws the links among them at once.  In place, a machine is copied when it is met:
its copy is made and put into a memo, then its children are copied one after the other, and the copy of each is appended
before the next child is looked at.

    copyInto id     in the memo     answer the copy
                    otherwise       make the copy, with empty partitions;
                                    for each child: copyInto child, append

The recursion may go `depth` levels down.  With every level there is one machine more in the memo, so any depth greater
than the number of machines is enough, and what comes of it does not depend on the depth.

A machine can be met while the links of its own copy are only half drawn, so on the way the graph is neither the one
before nor the one after.  `Sketched old g keys drawn` says what it is: `old` with copies of the machines `keys`, among
which the links `drawn a` of each machine `a` are drawn.  A machine is put into the memo when recursion marks it, so
`keys` runs through the order of the recursive walk, and `duplicate` makes the same copies in that order.

    blankCopy   a machine is put into the memo                     keys ++ [c]
    link        one more link of a machine is drawn                drawn a ++ [(i, c)]
    copyLinks   all that remains to be drawn of a machine,
                and what is copied on the way                      by the induction of the recursive walk

`append` asks whether the child is there already.  It never is: a machine holds no child twice in one partition, and
two machines have two copies.

The back-links of the copies are not part of the sketch.  They are recorded in another order than `deepCopy` finds
them, but are kept in increasing order, and where links and back-links agree they are determined by the partitions
(`Sound.eq_of_front`).
-/
import MeaningGraph.Proofs.Graph.Fold
import MeaningGraph.Proofs.Graph.InPlace
import MeaningGraph.Proofs.Graph.Preorder

namespace MeaningGraph

/-- The machine without its back-links. -/
def Machine.front (m : Machine) : Machine :=
  { m with parents := [] }

theorem Machine.OrderedParents.eq_of_mem_iff {m m' : Machine} (h : m.OrderedParents) (h' : m'.OrderedParents)
    (hmem : ∀ link, link ∈ m.parents ↔ link ∈ m'.parents) : m.parents = m'.parents := by
  refine ((List.perm_ext_iff_of_nodup h.nodup h'.nodup).2 hmem).eq_of_pairwise ?_ h h'
  intro a b _ _ hab hba
  have haa := Link.linear_before.trans a b a hab hba
  rw [Link.not_before_self] at haa
  cases haa

namespace Graph

variable {g g' old : Graph} {a b c d id p root copy : MachineId} {i depth : Nat} {m : Machine}
  {keys : List MachineId} {links : List (Nat × MachineId)} {memo : List (MachineId × MachineId)}
  {drawn : MachineId → List (Nat × MachineId)}

/-! ## Back-links are determined by the rest -/

theorem front_eq_iff {m' : Machine} :
    m.front = m'.front ↔ m.name = m'.name ∧ m.control = m'.control ∧ m.parts = m'.parts := by
  simp [Machine.front]

theorem holds_congr_front (h : ∀ id, (g.find? id).map Machine.front = (g'.find? id).map Machine.front) :
    g.Holds p i c ↔ g'.Holds p i c := by
  have hp := h p
  unfold Holds
  cases hm : g.find? p with
  | none => simp_all
  | some m =>
    cases hm' : g'.find? p with
    | none => simp_all
    | some m' =>
      simp only [hm, hm', Option.map_some, Option.some.injEq, front_eq_iff] at hp
      simp [Machine.part, hp.2.2]

/-- Graphs in order with the same slots, whose back-links are in increasing order, are equal when all machines are the
same up to their back-links. -/
theorem Sound.eq_of_front (h : g.Sound) (h' : g'.Sound) (hordered : g.OrderedParents)
    (hordered' : g'.OrderedParents) (hslots : SameSlots g g')
    (hfront : ∀ id, (g.find? id).map Machine.front = (g'.find? id).map Machine.front) : g = g' := by
  refine hslots.eq fun id => ?_
  have hid := hfront id
  cases hm : g.find? id with
  | none => simp_all
  | some m =>
    cases hm' : g'.find? id with
    | none => simp_all
    | some m' =>
      simp only [hm, hm', Option.map_some, Option.some.injEq, front_eq_iff] at hid
      have hparents : m.parents = m'.parents := by
        refine (hordered id m hm).eq_of_mem_iff (hordered' id m' hm') fun link => ?_
        rw [← heldBy_iff_of_find? (p := link.parent) (i := link.partition) hm,
          ← heldBy_iff_of_find? (p := link.parent) (i := link.partition) hm', ← h.links.holds_iff,
          ← h'.links.holds_iff, holds_congr_front hfront]
      obtain ⟨name, control, parts, parents⟩ := m
      obtain ⟨name', control', parts', parents'⟩ := m'
      simp_all

/-! ## Links with their partitions -/

/-- The links of a live machine to its children, with the partition of each. -/
def numbered (g : Graph) (a : MachineId) : List (Nat × MachineId) :=
  match g.find? a with
  | some m => numberedLinks m
  | none => []

theorem map_snd_numberedLinks (m : Machine) : (numberedLinks m).map (·.2) = m.links := by
  simp only [numberedLinks, List.map_flatMap, List.map_map, Function.comp_def, List.map_id']
  rw [List.flatMap_def, List.zipIdx_map_fst, Machine.links]

theorem map_snd_numbered (g : Graph) (a : MachineId) : (g.numbered a).map (·.2) = g.linksOf a := by
  unfold numbered linksOf
  cases g.find? a with
  | none => rfl
  | some m => exact map_snd_numberedLinks m

theorem filter_zipIdx (parts : List (List MachineId)) (n i : Nat) :
    ((parts.zipIdx n).flatMap fun (part, p) => part.map (p, ·)).filter (·.1 = i) =
      if n ≤ i then (parts.getD (i - n) []).map (i, ·) else [] := by
  induction parts generalizing n with
  | nil => simp
  | cons part parts ih =>
    have hpart : ((part.map (n, ·)).filter fun link => decide (link.1 = i)) =
        if n = i then part.map (i, ·) else [] := by
      split
      · rename_i hn
        simp [hn]
      · rename_i hn
        simp [hn]
    rw [List.zipIdx_cons, List.flatMap_cons, List.filter_append, hpart, ih]
    rcases Nat.lt_trichotomy n i with hlt | rfl | hgt
    · obtain ⟨k, rfl⟩ := Nat.exists_eq_add_of_lt hlt
      rw [if_neg (by omega), if_pos (by omega), if_pos (by omega), List.nil_append,
        show n + k + 1 - n = k + 1 by omega, show n + k + 1 - (n + 1) = k by omega, List.getD_cons_succ]
    · simp
    · rw [if_neg (by omega), if_neg (by omega), if_neg (by omega), List.nil_append]

theorem filter_numberedLinks (m : Machine) (i : Nat) :
    (numberedLinks m).filter (·.1 = i) = (m.part i).map (i, ·) := by
  have h := filter_zipIdx m.parts 0 i
  simpa [numberedLinks, Machine.part] using h

/-! ## Copying -/

namespace InPlace

/-- The machines that were copied, with their copies, in the order in which they were met. -/
abbrev Memo := List (MachineId × MachineId)

/-- Copies a child and appends its copy to the copy of the parent. -/
def copyLink (copyChild : MachineId → Memo → GraphM (MachineId × Memo)) (copy : MachineId) (memo : Memo)
    (link : Nat × MachineId) : GraphM Memo := do
  let child ← copyChild link.2 memo
  append copy child.1 link.1
  return child.2

/-- Copies a machine that is not in the memo: makes its copy, puts it into the memo, copies its children one after
the other and appends the copy of each.  There is no outcome when the recursion goes deeper than `depth`. -/
def copyInto : (depth : Nat) → MachineId → Memo → GraphM (MachineId × Memo)
  | 0, _, _ => fun _ => none
  | depth + 1, id, memo => do
    match copyOf? memo id with
    | some copy => return (copy, memo)
    | none =>
      let m ← read id
      let copy ← create m.name m.control
      change copy (pad (max m.parts.length 1))
      let memo ← (numberedLinks m).foldlM (copyLink (copyInto depth) copy) (memo ++ [(id, copy)])
      return (copy, memo)

def deepCopy (depth : Nat) (id : MachineId) : GraphM MachineId := do
  let copied ← copyInto depth id []
  return copied.1

theorem copyInto_of_some (depth : Nat) (h : copyOf? memo id = some copy) :
    copyInto (depth + 1) id memo g = some (.ok (copy, memo), g) := by
  rw [copyInto, h]
  rfl

end InPlace

/-! ## The same copies in the same slots -/

theorem SameSlots.size_le (h : SameSlots g g') : g'.slots.size ≤ g.slots.size := by
  have hend := h.generation g.slots.size
  rw [Array.getElem?_eq_none (Nat.le_refl _), Option.map_none, eq_comm, Option.map_eq_none_iff] at hend
  exact Array.getElem?_eq_none_iff.1 hend

theorem SameSlots.create (h : SameSlots g g') (name : String) (control : Option Control) :
    (g.create name control).1 = (g'.create name control).1 ∧
      SameSlots (g.create name control).2 (g'.create name control).2 := by
  have hsize := Nat.le_antisymm h.symm.size_le h.size_le
  obtain ⟨slots, free, live⟩ := g
  obtain ⟨slots', free', live'⟩ := g'
  obtain ⟨hgen, rfl, rfl⟩ := h
  simp only at hsize
  cases free with
  | nil =>
    refine ⟨by simp [Graph.create, hsize], ⟨fun i => ?_, rfl, rfl⟩⟩
    simp only [Graph.create, Array.getElem?_push, hsize]
    split
    · rfl
    · exact hgen i
  | cons index free =>
    have hindex := hgen index
    refine ⟨by simp [Graph.create, hindex], ⟨fun i => ?_, rfl, rfl⟩⟩
    simp only [Graph.create, Array.getElem?_setIfInBounds, hsize, hindex]
    split
    · split <;> rfl
    · exact hgen i

theorem duplicate_append (g : Graph) (ids later : List MachineId) :
    g.duplicate (ids ++ later) =
      ((g.duplicate ids).1 ++ ((g.duplicate ids).2.duplicate later).1,
        ((g.duplicate ids).2.duplicate later).2) := by
  induction ids generalizing g with
  | nil => rfl
  | cons id ids ih =>
    rw [List.cons_append, duplicate, duplicate]
    cases g.find? id with
    | none => exact ih g
    | some m => simp [ih]

theorem mem_duplicate_append (hab : (a, b) ∈ (old.duplicate keys).1) (later : List MachineId) :
    (a, b) ∈ (old.duplicate (keys ++ later)).1 := by
  rw [duplicate_append]
  exact List.mem_append_left _ hab

/-! ## The copy of one machine on the way -/

theorem copyOf?_snoc (hne : a ≠ c) : copyOf? (memo ++ [(c, d)]) a = copyOf? memo a := by
  rw [copyOf?, copyOf?, List.lookup_append, List.lookup_cons, beq_false_of_ne hne]
  simp

/-- The copy of a machine while only some of its links are drawn among the copies, without its back-links. -/
def sketch (memo : List (MachineId × MachineId)) (links : List (Nat × MachineId)) (m : Machine) : Machine where
  name := m.name
  control := m.control
  parts := m.parts.mapIdx fun i _ => (links.filter (·.1 = i)).filterMap fun link => copyOf? memo link.2

theorem sketch_numberedLinks (memo : List (MachineId × MachineId)) (m : Machine) :
    sketch memo (numberedLinks m) m = (relabel memo m).front := by
  simp only [sketch, relabel, Machine.front, filter_numberedLinks, List.filterMap_map, Function.comp_def]
  congr 1
  refine List.ext_getElem? fun i => ?_
  rw [List.getElem?_mapIdx, List.getElem?_map, Machine.part, List.getD_eq_getElem?_getD]
  cases m.parts[i]? <;> rfl

theorem sketch_nil (memo : List (MachineId × MachineId)) (hparts : m.parts ≠ []) :
    sketch memo [] m = (InPlace.pad (max m.parts.length 1) (bare m.name m.control)).front := by
  have hblank : ∀ parts : List (List MachineId), (parts.mapIdx fun _ _ => ([] : List MachineId)) =
      List.replicate parts.length [] := fun parts =>
    List.eq_replicate_iff.2 ⟨List.length_mapIdx, by simp [List.mem_mapIdx]⟩
  obtain ⟨part, parts, hm⟩ := List.exists_cons_of_ne_nil hparts
  simp [sketch, InPlace.pad, Machine.front, bare, Machine.padded, hblank, hm, List.replicate_succ]

theorem sketch_snoc (hne : ∀ link ∈ links, link.2 ≠ c) :
    sketch (memo ++ [(c, d)]) links m = sketch memo links m := by
  have hlinks : ∀ i : Nat, ((links.filter (·.1 = i)).filterMap fun link => copyOf? (memo ++ [(c, d)]) link.2) =
      (links.filter (·.1 = i)).filterMap fun link => copyOf? memo link.2 := by
    intro i
    refine List.filterMap_congr fun link hlink => ?_
    exact copyOf?_snoc (hne link (List.mem_of_mem_filter hlink))
  simp only [sketch, hlinks]

theorem sketch_link {link : Nat × MachineId} (hcopy : copyOf? memo link.2 = some d)
    (hlt : link.1 < m.parts.length) :
    sketch memo (links ++ [link]) m = ((sketch memo links m).addChild d link.1).front := by
  have hpadded : ∀ parts : List (List MachineId), link.1 < parts.length →
      Machine.padded (link.1 + 1) parts = parts := by
    intro parts hparts
    rw [Machine.padded, show link.1 + 1 - parts.length = 0 by omega, List.replicate_zero, List.append_nil]
  simp only [sketch, Machine.addChild, Machine.front, List.filter_append, List.filterMap_append]
  rw [hpadded _ (by simpa using hlt)]
  congr 1
  refine List.ext_getElem? fun j => ?_
  rw [List.getElem?_modify, List.getElem?_mapIdx, List.getElem?_mapIdx]
  by_cases hj : link.1 = j
  · simp [hj, hcopy, Function.comp_def]
  · simp [hj]

theorem mem_part_sketch {m : Machine} (h : d ∈ (sketch memo links m).part i) :
    ∃ link ∈ links, link.1 = i ∧ copyOf? memo link.2 = some d := by
  obtain ⟨part, hpart, hd⟩ := Machine.mem_part_iff.1 h
  rw [sketch, List.getElem?_mapIdx, Option.map_eq_some_iff] at hpart
  obtain ⟨-, -, rfl⟩ := hpart
  obtain ⟨link, hlink, hcopy⟩ := List.mem_filterMap.1 hd
  rw [List.mem_filter, decide_eq_true_eq] at hlink
  exact ⟨link, hlink.1, hlink.2, hcopy⟩

/-! ## What a step changes -/

/-- Makes a machine of the same name and control, with as many partitions, all of them empty. -/
def blankCopy (g : Graph) (m : Machine) : MachineId × Graph :=
  let (copy, g) := g.create m.name m.control
  (copy, g.update copy (InPlace.pad (max m.parts.length 1)))

theorem blankCopy_congr {m' : Machine} (h : m'.front = m.front) : g.blankCopy m' = g.blankCopy m := by
  obtain ⟨hname, hcontrol, hparts⟩ := front_eq_iff.1 h
  rw [blankCopy, blankCopy, hname, hcontrol, hparts]

theorem SlotsOrdered.find?_blankCopy (h : g.SlotsOrdered) (m : Machine) (id : MachineId) :
    (g.blankCopy m).2.find? id =
      if id = (g.blankCopy m).1 then some (InPlace.pad (max m.parts.length 1) (bare m.name m.control))
      else g.find? id := by
  rw [blankCopy, find?_update, h.find?_create_self, h.find?_create]
  split
  · rfl
  · rfl

theorem Sound.pad (h : g.Sound) (id : MachineId) (n : Nat) : (g.update id (InPlace.pad n)).Sound := by
  refine h.update ?_ ?_ ?_ id
  · exact fun m i => InPlace.part_pad n m i
  · exact fun _ => rfl
  · exact fun _ hm => List.append_ne_nil_of_left_ne_nil hm _

theorem map_front_link (g : Graph) (p c : MachineId) (i : Nat) (id : MachineId) :
    ((g.link p c i).find? id).map Machine.front =
      if id = p then (g.find? p).map fun m => (m.front.addChild c i).front
      else (g.find? id).map Machine.front := by
  have hback : ∀ m : Machine, (m.addParent ⟨p, i⟩).front = m.front := fun _ => rfl
  rw [link, map_find?_update hback, find?_update]
  split
  · rw [Option.map_map]
    rfl
  · rfl

/-! ## Half a copy -/

/-- `g` is `old` with copies of the machines `keys`, made in this order, among which the links `drawn` are drawn. -/
structure Sketched (old g : Graph) (keys : List MachineId) (drawn : MachineId → List (Nat × MachineId)) :
    Prop where
  contains : ∀ a ∈ keys, old.contains a = true
  nodup : keys.Nodup
  sound : g.Sound
  ordered : g.OrderedParents
  slots : SameSlots g (old.duplicate keys).2
  copy : ∀ a b, (a, b) ∈ (old.duplicate keys).1 → ∃ m, old.find? a = some m ∧
    (g.find? b).map Machine.front = some (sketch (old.duplicate keys).1 (drawn a) m)
  other : ∀ id, (∀ a, (a, id) ∉ (old.duplicate keys).1) →
    (g.find? id).map Machine.front = (old.find? id).map Machine.front
  child : ∀ a, ∀ link ∈ drawn a, link.2 ∈ keys
  blank : ∀ a, a ∉ keys → drawn a = []

theorem Sound.sketched (h : old.Sound) (ho : old.OrderedParents) : Sketched old old [] fun _ => [] where
  contains _ h := absurd h List.not_mem_nil
  nodup := List.nodup_nil
  sound := h
  ordered := ho
  slots := .refl old
  copy _ _ h := absurd h List.not_mem_nil
  other _ _ := rfl
  child _ _ h := absurd h List.not_mem_nil
  blank _ _ := rfl

namespace Sketched

theorem contains_copy (hs : Sketched old g keys drawn) (hab : (a, b) ∈ (old.duplicate keys).1) :
    g.contains b = true := by
  obtain ⟨m, -, hb⟩ := hs.copy a b hab
  obtain ⟨new, hnew, -⟩ := Option.map_eq_some_iff.1 hb
  exact contains_of_find? hnew

variable (h : old.Sound)
include h

theorem duplicated (hs : Sketched old g keys drawn) :
    Duplicated old (old.duplicate keys).2 keys (old.duplicate keys).1 :=
  h.duplicated hs.contains

theorem copyOf?_of_mem (hs : Sketched old g keys drawn) (hab : (a, b) ∈ (old.duplicate keys).1) :
    copyOf? (old.duplicate keys).1 a = some b := by
  refine Graph.copyOf?_of_mem ?_ hab
  rw [(hs.duplicated h).originals]
  exact hs.nodup

theorem exists_copy (hs : Sketched old g keys drawn) (ha : a ∈ keys) : ∃ b, (a, b) ∈ (old.duplicate keys).1 := by
  rw [← (hs.duplicated h).originals] at ha
  obtain ⟨⟨_, b⟩, hab, rfl⟩ := List.mem_map.1 ha
  exact ⟨b, hab⟩

theorem mem_keys (hs : Sketched old g keys drawn) (hab : (a, b) ∈ (old.duplicate keys).1) : a ∈ keys := by
  rw [← (hs.duplicated h).originals]
  exact List.mem_map_of_mem hab

theorem copyOf?_eq_none (hs : Sketched old g keys drawn) (ha : a ∉ keys) :
    copyOf? (old.duplicate keys).1 a = none := by
  cases hcopy : copyOf? (old.duplicate keys).1 a with
  | none => rfl
  | some b => exact absurd (hs.mem_keys h (mem_of_copyOf? hcopy)) ha

theorem find?_old (hs : Sketched old g keys drawn) (hm : old.find? id = some m) :
    ∃ m', g.find? id = some m' ∧ m'.front = m.front := by
  have hid := hs.other id fun a hmem =>
    (hs.duplicated h).fresh a id hmem (.of_contains (contains_of_find? hm))
  rw [hm] at hid
  exact Option.map_eq_some_iff.1 hid

/-- The next machine is put into the memo with a blank copy. -/
theorem duplicate_snoc (hs : Sketched old g keys drawn) (hm : old.find? c = some m) :
    (old.duplicate (keys ++ [c])).1 = (old.duplicate keys).1 ++ [(c, (g.blankCopy m).1)] ∧
      SameSlots (g.blankCopy m).2 (old.duplicate (keys ++ [c])).2 := by
  have hlive : (old.duplicate keys).2.find? c = some m := by
    rw [(hs.duplicated h).find?_other c fun a hmem =>
      (hs.duplicated h).fresh a c hmem (.of_contains (contains_of_find? hm)), hm]
  obtain ⟨hid, hslots⟩ := hs.slots.create m.name m.control
  rw [duplicate_append, duplicate, hlive]
  exact ⟨by rw [blankCopy, hid]; rfl, (sameSlots_update ..).trans hslots⟩

theorem blankCopy (hs : Sketched old g keys drawn) (hnew : c ∉ keys) (hm : old.find? c = some m) :
    Sketched old (g.blankCopy m).2 (keys ++ [c]) drawn := by
  obtain ⟨hmemo, hslots⟩ := hs.duplicate_snoc h hm
  have hfind := hs.sound.slots.find?_blankCopy m
  have hdead : g.contains (g.blankCopy m).1 = false := hs.sound.slots.not_contains_create ..
  have hordered : (g.create m.name m.control).2.OrderedParents := hs.ordered.create hs.sound.slots _ _
  refine
    { contains := ?_
      nodup := List.nodup_append.2 ⟨hs.nodup, List.nodup_singleton c, ?_⟩
      sound := (hs.sound.evolves_create ..).sound.pad ..
      ordered := hordered.update fun _ hm => hm
      slots := hslots
      copy := ?_
      other := ?_
      child := fun a link hlink => List.mem_append_left _ (hs.child a link hlink)
      blank := fun a ha => hs.blank a fun hmem => ha (List.mem_append_left _ hmem) }
  · intro a ha
    rcases List.mem_append.1 ha with ha | ha
    · exact hs.contains a ha
    · rw [List.mem_singleton.1 ha]
      exact contains_of_find? hm
  · intro a ha b hb hab
    rw [List.mem_singleton.1 hb] at hab
    exact hnew (hab ▸ ha)
  · intro a b hab
    rw [hmemo] at hab ⊢
    rcases List.mem_append.1 hab with hab | hab
    · -- a machine that was copied before
      obtain ⟨ma, hma, hb⟩ := hs.copy a b hab
      have hne : b ≠ (g.blankCopy m).1 := by
        rintro rfl
        rw [hs.contains_copy hab] at hdead
        cases hdead
      refine ⟨ma, hma, ?_⟩
      rw [hfind, if_neg hne, hb, sketch_snoc]
      rintro link hlink rfl
      exact hnew (hs.child a link hlink)
    · obtain ⟨rfl, rfl⟩ := Prod.mk.inj (List.mem_singleton.1 hab)
      refine ⟨m, hm, ?_⟩
      rw [hfind, if_pos rfl, hs.blank a hnew, sketch_nil _ (h.links.parts_ne_nil a m hm)]
      rfl
  · intro id hid
    rw [hmemo] at hid
    have hne : id ≠ (g.blankCopy m).1 := by
      rintro rfl
      exact hid c (List.mem_append_right _ (List.mem_singleton_self _))
    rw [hfind, if_neg hne]
    exact hs.other id fun a hmem => hid a (List.mem_append_left _ hmem)

theorem append_eq_link (hs : Sketched old g keys drawn) (hab : (a, b) ∈ (old.duplicate keys).1)
    (hcd : (c, d) ∈ (old.duplicate keys).1) (hnew : (i, c) ∉ drawn a) :
    g.append b d i = .ok (g.link b d i) := by
  obtain ⟨m, -, hb⟩ := hs.copy a b hab
  obtain ⟨mb, hmb, hfront⟩ := Option.map_eq_some_iff.1 hb
  rw [append_eq hmb (hs.contains_copy hcd), if_neg]
  intro hd
  have hpart : d ∈ (sketch (old.duplicate keys).1 (drawn a) m).part i := by
    rw [← hfront]
    exact hd
  obtain ⟨link, hlink, rfl, hcopy⟩ := mem_part_sketch hpart
  have hlc : link.2 = c := eq_of_mem_of_mem (hs.duplicated h).nodup_copies (mem_of_copyOf? hcopy) hcd
  exact hnew (hlc ▸ hlink)

theorem link (hs : Sketched old g keys drawn) (hab : (a, b) ∈ (old.duplicate keys).1)
    (hcd : (c, d) ∈ (old.duplicate keys).1) (hold : old.Holds a i c) (hnew : (i, c) ∉ drawn a) :
    Sketched old (g.link b d i) keys (Function.update drawn a (drawn a ++ [(i, c)])) := by
  have happend := hs.append_eq_link h hab hcd hnew
  refine
    { contains := hs.contains
      nodup := hs.nodup
      sound := (hs.sound.evolves_append happend).sound
      ordered := hs.ordered.append happend
      slots := ((sameSlots_update ..).trans (sameSlots_update ..)).trans hs.slots
      copy := ?_
      other := ?_
      child := ?_
      blank := ?_ }
  · intro x y hxy
    rw [map_front_link]
    by_cases hyb : y = b
    · subst hyb
      obtain rfl := eq_of_mem_of_mem (hs.duplicated h).nodup_copies hxy hab
      obtain ⟨m, hm, hy⟩ := hs.copy x y hxy
      obtain ⟨my, hmy, hfront⟩ := Option.map_eq_some_iff.1 hy
      have hlt : i < m.parts.length := by
        obtain ⟨part, hpart, -⟩ := Machine.mem_part_iff.1 ((holds_iff_of_find? hm).1 hold)
        exact (List.getElem?_eq_some_iff.1 hpart).1
      refine ⟨m, hm, ?_⟩
      rw [if_pos rfl, hmy, Function.update_self, sketch_link (hs.copyOf?_of_mem h hcd) hlt, ← hfront]
      rfl
    · have hxa : x ≠ a := by
        rintro rfl
        have hcopy := hs.copyOf?_of_mem h hab
        rw [hs.copyOf?_of_mem h hxy, Option.some.injEq] at hcopy
        exact hyb hcopy
      rw [if_neg hyb, Function.update_of_ne hxa]
      exact hs.copy x y hxy
  · intro id hid
    rw [map_front_link, if_neg]
    · exact hs.other id hid
    · rintro rfl
      exact hid a hab
  · intro x link hlink
    by_cases hxa : x = a
    · subst hxa
      rw [Function.update_self] at hlink
      rcases List.mem_append.1 hlink with hlink | hlink
      · exact hs.child x link hlink
      · rw [List.mem_singleton.1 hlink]
        exact hs.mem_keys h hcd
    · rw [Function.update_of_ne hxa] at hlink
      exact hs.child x link hlink
  · intro x hx
    have hxa : x ≠ a := by
      rintro rfl
      exact hx (hs.mem_keys h hab)
    rw [Function.update_of_ne hxa]
    exact hs.blank x hx

end Sketched

/-! ## A whole copy -/

/-- The links of the machines `ids` are all drawn. -/
def drawAll (old : Graph) (ids : List MachineId) (drawn : MachineId → List (Nat × MachineId)) :
    MachineId → List (Nat × MachineId) :=
  fun id => if id ∈ ids then old.numbered id else drawn id

theorem drawAll_singleton (h : drawn a = old.numbered a) : drawAll old [a] drawn = drawn := by
  funext id
  by_cases ha : id = a
  · simp [drawAll, ha, h]
  · simp [drawAll, ha]

theorem drawAll_update (old : Graph) (ids : List MachineId) (a : MachineId) (links : List (Nat × MachineId)) :
    drawAll old (a :: ids) (Function.update drawn a links) = drawAll old (a :: ids) drawn := by
  funext id
  by_cases ha : id = a
  · simp [drawAll, ha]
  · simp [drawAll, ha]

theorem drawAll_drawAll (old : Graph) (ids later : List MachineId) (a : MachineId) :
    drawAll old (a :: later) (drawAll old ids drawn) = drawAll old (a :: (ids ++ later)) drawn := by
  funext id
  by_cases hids : id ∈ ids
  · simp [drawAll, hids]
  · simp [drawAll, hids]

theorem mem_numbered_iff : (i, c) ∈ old.numbered a ↔ old.Holds a i c := by
  unfold numbered Holds
  cases old.find? a with
  | none => simp
  | some m => simp [mem_numberedLinks]

theorem Sound.nodup_numbered (h : old.Sound) (a : MachineId) : (old.numbered a).Nodup := by
  unfold numbered
  cases hm : old.find? a with
  | none => exact List.nodup_nil
  | some m => exact nodup_numberedLinks (h.links.nodup_part a m hm)

/-- The next link to be drawn is a link of the machine that is not drawn yet. -/
theorem Sound.first_of_numbered (h : old.Sound) {drawn links : List (Nat × MachineId)}
    (hlinks : drawn ++ (i, c) :: links = old.numbered a) : old.Holds a i c ∧ (i, c) ∉ drawn := by
  have hnodup := h.nodup_numbered a
  rw [← hlinks] at hnodup
  refine ⟨mem_numbered_iff.1 ?_, fun hmem => ?_⟩
  · rw [← hlinks]
    exact List.mem_append_right _ List.mem_cons_self
  · exact (List.nodup_append.1 hnodup).2.2 _ hmem _ List.mem_cons_self rfl

namespace Sketched

variable (h : old.Sound)
include h

theorem copyInto_eq (hs : Sketched old g keys drawn) (hnew : c ∉ keys) (hm : old.find? c = some m)
    (hlinks : (old.numbered c).foldlM (InPlace.copyLink (InPlace.copyInto depth) (g.blankCopy m).1)
      (old.duplicate (keys ++ [c])).1 (g.blankCopy m).2 = some (.ok memo, g')) :
    InPlace.copyInto (depth + 1) c (old.duplicate keys).1 g = some (.ok ((g.blankCopy m).1, memo), g') := by
  obtain ⟨m', hm', hfront⟩ := hs.find?_old h hm
  obtain ⟨-, -, hparts⟩ := front_eq_iff.1 hfront
  have hnumbered : old.numbered c = numberedLinks m' := by
    simp only [numbered, hm, numberedLinks, hparts]
  rw [(hs.duplicate_snoc h hm).1, hnumbered, ← blankCopy_congr hfront] at hlinks
  rw [← blankCopy_congr hfront, InPlace.copyInto, hs.copyOf?_eq_none h hnew]
  have hmade : (g.create m'.name m'.control).2.contains (g.create m'.name m'.control).1 = true :=
    (hs.sound.slots.contains_create ..).2 (.inl rfl)
  refine (InPlace.bind_of_ok (InPlace.read_of_find? hm')).trans ((InPlace.bind_of_ok rfl).trans ?_)
  refine (InPlace.bind_of_ok (InPlace.change_of_contains hmade)).trans ?_
  exact InPlace.bind_of_ok hlinks

theorem copyLink_eq (hs : Sketched old g' keys drawn)
    (hchild : InPlace.copyInto depth c memo g = some (.ok (d, (old.duplicate keys).1), g'))
    (hab : (a, b) ∈ (old.duplicate keys).1) (hcd : (c, d) ∈ (old.duplicate keys).1) (hold : old.Holds a i c)
    (hnew : (i, c) ∉ drawn a) :
    InPlace.copyLink (InPlace.copyInto depth) b memo (i, c) g =
        some (.ok (old.duplicate keys).1, g'.link b d i) ∧
      Sketched old (g'.link b d i) keys (Function.update drawn a (drawn a ++ [(i, c)])) := by
  have happend : InPlace.append b d i g' = some (.ok (), g'.link b d i) := by
    rw [InPlace.append_settled, hs.append_eq_link h hab hcd hnew]
    rfl
  exact ⟨(InPlace.bind_of_ok hchild).trans (InPlace.bind_of_ok happend), hs.link h hab hcd hold hnew⟩

/-- The links of a machine that is being copied are copied one after the other.  None of the steps fails, and at the
end all links are drawn, those of the machine and those of all that were copied on the way.  The recursion need not go
deeper than there are machines that are not in the memo. -/
theorem copyLinks (hs : Sketched old g keys drawn) (hab : (a, b) ∈ (old.duplicate keys).1)
    (hlinks : drawn a ++ links = old.numbered a) (hdepth : (old.unvisited keys).length < depth) :
    ∃ g', links.foldlM (InPlace.copyLink (InPlace.copyInto depth) b) (old.duplicate keys).1 g =
        some (.ok (old.duplicate (keys ++ old.visitEach keys (links.map (·.2)))).1, g') ∧
      Sketched old g' (keys ++ old.visitEach keys (links.map (·.2)))
        (drawAll old (a :: old.visitEach keys (links.map (·.2))) drawn) := by
  generalize hpending : links.map (·.2) = pending
  induction keys, pending using visitEach.induct old generalizing g drawn links a b depth with
  | case1 keys =>
    obtain rfl := List.map_eq_nil_iff.1 hpending
    rw [List.append_nil] at hlinks
    rw [visitEach, List.append_nil, drawAll_singleton hlinks]
    exact ⟨g, rfl, hs⟩
  | case2 keys c rest hnew below ihbelow =>
    rename_i ihrest
    obtain ⟨⟨i, c⟩, links, rfl, rfl, rfl⟩ := List.map_eq_cons_iff.1 hpending
    obtain ⟨hold, hfresh⟩ := h.first_of_numbered hlinks
    obtain ⟨m, hm⟩ := contains_iff.1 hnew.1
    have hcd : (c, (g.blankCopy m).1) ∈ (old.duplicate (keys ++ [c])).1 := by
      rw [(hs.duplicate_snoc h hm).1]
      exact List.mem_append_right _ (List.mem_singleton_self _)
    obtain ⟨depth, rfl⟩ := Nat.exists_eq_add_one_of_ne_zero (Nat.ne_zero_of_lt hdepth)
    -- the child and what is below it, one level down and with one machine more in the memo
    have hdeeper : (old.unvisited (keys ++ [c])).length < depth :=
      Nat.lt_of_lt_of_le (length_unvisited_lt hnew.1 hnew.2 List.mem_cons_self) (Nat.le_of_lt_succ hdepth)
    obtain ⟨g₁, hbelow, hs₁⟩ := ihbelow (hs.blankCopy h hnew.2 hm) hcd
      (by rw [hs.blank c hnew.2, List.nil_append]) hdeeper (map_snd_numbered old c)
    have hinto := hs.copyInto_eq h hnew.2 hm hbelow
    have hcd₁ := mem_duplicate_append hcd below
    rw [List.append_assoc, List.singleton_append] at hinto hs₁ hcd₁
    have hundrawn : drawAll old (c :: below) drawn a = drawn a := by
      refine if_neg fun hmem => ?_
      exact (List.nodup_append.1 hs₁.nodup).2.2 a (hs.mem_keys h hab) a hmem rfl
    obtain ⟨hlink, hs₂⟩ := hs₁.copyLink_eq h hinto (mem_duplicate_append hab _) hcd₁ hold
      (by rwa [hundrawn])
    -- the links that are left
    obtain ⟨g', hrun, hdone⟩ := ihrest hs₂ (mem_duplicate_append hab _)
      (by rw [Function.update_self, hundrawn, List.append_assoc]; exact hlinks)
      (Nat.lt_trans (length_unvisited_lt hnew.1 hnew.2 List.mem_cons_self) hdepth) rfl
    rw [drawAll_update, drawAll_drawAll] at hdone
    rw [visitEach, dif_pos hnew]
    rw [List.append_assoc] at hrun hdone
    exact ⟨g', (InPlace.bind_of_ok hlink).trans hrun, hdone⟩
  | case3 keys c rest hseen ih =>
    obtain ⟨⟨i, c⟩, links, rfl, rfl, rfl⟩ := List.map_eq_cons_iff.1 hpending
    obtain ⟨hold, hfresh⟩ := h.first_of_numbered hlinks
    have hc : c ∈ keys := by
      by_contra hnew
      exact hseen ⟨h.contains_child hold, hnew⟩
    obtain ⟨d, hcd⟩ := hs.exists_copy h hc
    obtain ⟨depth, rfl⟩ := Nat.exists_eq_add_one_of_ne_zero (Nat.ne_zero_of_lt hdepth)
    obtain ⟨hlink, hs₁⟩ := hs.copyLink_eq h (InPlace.copyInto_of_some depth (hs.copyOf?_of_mem h hcd)) hab hcd
      hold hfresh
    obtain ⟨g', hrun, hdone⟩ := ih hs₁ hab
      (by rw [Function.update_self, List.append_assoc]; exact hlinks) hdepth rfl
    rw [drawAll_update] at hdone
    rw [visitEach, dif_neg hseen]
    exact ⟨g', (InPlace.bind_of_ok hlink).trans hrun, hdone⟩

end Sketched

/-- Copying a live machine in place never fails and ends with all links drawn. -/
theorem Sound.copyInto_sketched (h : g.Sound) (ho : g.OrderedParents) (hroot : g.contains root = true)
    (hdepth : g.live < depth) :
    ∃ copy g', InPlace.copyInto depth root [] g = some (.ok (copy, g.copies root), g') ∧ (root, copy) ∈ g.copies root ∧
      Sketched g g' (g.descendants [root]) (drawAll g (g.descendants [root]) fun _ => []) := by
  have hs := h.sketched ho
  obtain ⟨m, hm⟩ := contains_iff.1 hroot
  have hcopy : (root, (g.blankCopy m).1) ∈ (g.duplicate ([] ++ [root])).1 := by
    rw [(hs.duplicate_snoc h hm).1]
    exact List.mem_append_right _ (List.mem_singleton_self _)
  obtain ⟨depth, rfl⟩ := Nat.exists_eq_add_one_of_ne_zero (Nat.ne_zero_of_lt hdepth)
  have hdeeper : (g.unvisited ([] ++ [root])).length < depth := by
    refine Nat.lt_of_lt_of_le (length_unvisited_lt hroot List.not_mem_nil List.mem_cons_self) ?_
    rw [unvisited_nil, ← h.slots.live_eq]
    exact Nat.le_of_lt_succ hdepth
  obtain ⟨g', hlinks, hdone⟩ := (hs.blankCopy h List.not_mem_nil hm).copyLinks h hcopy
    (List.nil_append (g.numbered root)) hdeeper
  have horder : g.descendants [root] = root :: g.visitEach [root] (g.linksOf root) := by
    rw [descendants_eq_visitEach, visitEach, dif_pos ⟨hroot, List.not_mem_nil⟩]
    simp [visitEach]
  rw [map_snd_numbered] at hlinks hdone
  rw [copies, horder]
  exact ⟨_, g', hs.copyInto_eq h List.not_mem_nil hm hlinks, mem_duplicate_append hcopy _, hdone⟩

theorem deepCopy_eq_drawLinks (hcopy : g.deepCopy root = .ok (copy, g')) :
    g' = drawLinks g (g.copies root) (g.duplicate (g.descendants [root])).2 := by
  rw [deepCopy, tree_of_contains (contains_of_deepCopy hcopy)] at hcopy
  simp only [bind, Except.bind, pure, Except.pure] at hcopy
  split at hcopy
  · cases hcopy
    rfl
  · cases hcopy

/-- With all links drawn the copies are those that the links are drawn among at once. -/
theorem Sketched.eq_of_copied (h : old.Sound) (ho : old.OrderedParents) {g₁ : Graph}
    (hs : Sketched old g (old.descendants [root]) (drawAll old (old.descendants [root]) fun _ => []))
    (hcopy : old.deepCopy root = .ok (copy, g₁)) : g = g₁ := by
  have hcopied : Copied old g₁ root copy (old.copies root) := h.deepCopy_cases hcopy
  have hslots : SameSlots (drawLinks old (old.copies root) (old.duplicate (old.descendants [root])).2)
      (old.duplicate (old.descendants [root])).2 :=
    drawLinks_keeps (P := (SameSlots · (old.duplicate (old.descendants [root])).2))
      (fun g id f hg => (sameSlots_update g id f).trans hg) (.refl _)
  rw [← deepCopy_eq_drawLinks hcopy] at hslots
  refine hs.sound.eq_of_front (hcopied.evolves h).sound hs.ordered (ho.deepCopy h hcopy)
    (hs.slots.trans hslots.symm) fun id => ?_
  by_cases hid : ∃ a, (a, id) ∈ old.copies root
  · obtain ⟨a, ha⟩ := hid
    obtain ⟨m, hm, hfront⟩ := hs.copy a id ha
    have hdrawn : drawAll old (old.descendants [root]) (fun _ => []) a = numberedLinks m := by
      rw [drawAll, if_pos (hs.mem_keys h ha), numbered, hm]
    rw [hfront, hdrawn, sketch_numberedLinks, hcopied.find?_copy a id ha, hm]
    rfl
  · rw [hs.other id fun a ha => hid ⟨a, ha⟩, hcopied.find?_other id fun a ha => hid ⟨a, ha⟩]

/-- Copying machine by machine comes to the same as making all copies first and drawing the links then, and the
recursion is never deeper than there are machines. -/
theorem InPlace.deepCopy_settled (h : g.Sound) (ho : g.OrderedParents) (hdepth : g.live < depth)
    (root : MachineId) : InPlace.deepCopy depth root g = settled g (g.deepCopy root) := by
  cases hroot : g.contains root with
  | false =>
    obtain ⟨depth, rfl⟩ := Nat.exists_eq_add_one_of_ne_zero (Nat.ne_zero_of_lt hdepth)
    rw [(refuses_of_not_contains hroot).deepCopy]
    refine InPlace.bind_of_error ?_
    rw [InPlace.copyInto]
    exact InPlace.bind_of_error (InPlace.read_of_not_contains hroot)
  | true =>
    obtain ⟨copy, g', hrun, hmem, hs⟩ := h.copyInto_sketched ho hroot hdepth
    obtain ⟨copy', g₁, hcopy, hcopied⟩ := h.copied hroot
    have heq : copy = copy' := by
      have h₁ := Graph.copyOf?_of_mem hcopied.nodup_originals hmem
      rwa [Graph.copyOf?_of_mem hcopied.nodup_originals hcopied.root_mem, Option.some.injEq, eq_comm] at h₁
    rw [hcopy, ← hs.eq_of_copied h ho hcopy, ← heq]
    exact InPlace.bind_of_ok hrun

end Graph

end MeaningGraph
