/-
# Twin graphs

Two lexica that started from the same background are twins when they still agree on the background and
when a relation `v` pairs the machines made since, each pair alike: the same name, control and number of
partitions, and children and parents that are paired in turn.

    background    the machines of `base`, the same on both sides, as they were
    own machines  those made since, paired by `v`

Nothing links the background with the own machines: the children and parents of a paired machine are
paired, so they are no background, and background machines are as they were.

`Confined base l` is what is said of one side alone.  It includes that the working set is no background, and
that a static handle which is stale in the background stays stale: no machine made later gets it.
-/
import Mathlib.Order.Basic
import MeaningGraph.Proofs.Graph.Names
import MeaningGraph.Proofs.Lexicon.Sound
import MeaningGraph.Proofs.Related

namespace MeaningGraph

open List (Forall₂)

/-- Which machine of one run plays the part of which machine of the other. -/
abbrev Pairing := MachineId → MachineId → Prop

namespace Pairing

/-- The pairing with one more pair. -/
def add (v : Pairing) (a b : MachineId) : Pairing := fun x y => v x y ∨ x = a ∧ y = b

variable {v v' : Pairing} {a b x y : MachineId} {as bs : List MachineId}

theorem le_add (v : Pairing) (a b : MachineId) : v ≤ v.add a b :=
  fun _ _ h => .inl h

theorem biUnique_or {u : Pairing} (hv : Relator.BiUnique v) (hu : Relator.BiUnique u)
    (hleft : ∀ x y z, v x y → ¬ u x z) (hright : ∀ x y z, v x y → ¬ u z y) :
    Relator.BiUnique fun x y => v x y ∨ u x y := by
  constructor
  · rintro x y z (hx | hx) (hy | hy)
    · exact hv.1 hx hy
    · exact absurd hy (hright x z y hx)
    · exact absurd hx (hright y z x hy)
    · exact hu.1 hx hy
  · rintro x y z (hx | hx) (hy | hy)
    · exact hv.2 hx hy
    · exact absurd hy (hleft x y z hx)
    · exact absurd hx (hleft x z y hy)
    · exact hu.2 hx hy

theorem biUnique_add (hv : Relator.BiUnique v) (ha : ∀ y, ¬ v a y) (hb : ∀ x, ¬ v x b) :
    Relator.BiUnique (v.add a b) := by
  refine biUnique_or hv ⟨?_, ?_⟩ ?_ ?_
  · rintro x y z ⟨rfl, -⟩ ⟨rfl, -⟩
    rfl
  · rintro x y z ⟨-, rfl⟩ ⟨-, rfl⟩
    rfl
  · rintro x y z h ⟨rfl, -⟩
    exact ha y h
  · rintro x y z h ⟨-, rfl⟩
    exact hb x h

theorem eq_iff (hv : Relator.BiUnique v) (ha : v a b) (hx : v x y) : a = x ↔ b = y :=
  Relator.rel_eq hv ha hx

theorem mem_iff (hv : Relator.BiUnique v) (ha : v a b) (has : Forall₂ v as bs) : a ∈ as ↔ b ∈ bs :=
  List.rel_mem hv ha has

theorem list_eq_iff (hv : Relator.BiUnique v) {as' bs' : List MachineId} (has : Forall₂ v as bs)
    (has' : Forall₂ v as' bs') : as = as' ↔ bs = bs' :=
  Relator.rel_eq hv.forall₂ has has'

end Pairing

/-! ## Machines -/

/-- Two machines are alike. -/
structure Machine.Alike (v : Pairing) (m₁ m₂ : Machine) : Prop where
  name : m₁.name = m₂.name
  control : m₁.control = m₂.control
  length_parts : m₁.parts.length = m₂.parts.length
  part : ∀ p, Forall₂ v (m₁.part p) (m₂.part p)
  parents : ∀ link ∈ m₁.parents, ∃ other, v link.parent other ∧ ⟨other, link.partition⟩ ∈ m₂.parents
  parents' : ∀ link ∈ m₂.parents, ∃ other, v other link.parent ∧ ⟨other, link.partition⟩ ∈ m₁.parents

namespace Machine.Alike

variable {v v' : Pairing} {m₁ m₂ : Machine} {a b : MachineId} {p : Nat}

theorem mono (h : m₁.Alike v m₂) (hv : v ≤ v') : m₁.Alike v' m₂ where
  name := h.name
  control := h.control
  length_parts := h.length_parts
  part p := (h.part p).imp hv
  parents link hlink :=
    let ⟨other, hpair, hmem⟩ := h.parents link hlink
    ⟨other, hv _ _ hpair, hmem⟩
  parents' link hlink :=
    let ⟨other, hpair, hmem⟩ := h.parents' link hlink
    ⟨other, hv _ _ hpair, hmem⟩

theorem bare (name : String) (control : Option Control) :
    (Graph.bare name control).Alike v (Graph.bare name control) where
  name := rfl
  control := rfl
  length_parts := rfl
  part p := by
    rw [Machine.part_bare]
    exact .nil
  parents _ h := (List.not_mem_nil h).elim
  parents' _ h := (List.not_mem_nil h).elim

theorem setControl (h : m₁.Alike v m₂) (control : Option Control) :
    Machine.Alike v { m₁ with control } { m₂ with control } :=
  { h with control := rfl, part := h.part }

theorem addChild (h : m₁.Alike v m₂) (hab : v a b) (p : Nat) :
    (m₁.addChild a p).Alike v (m₂.addChild b p) where
  name := h.name
  control := h.control
  length_parts := by
    simp only [Machine.addChild, List.length_modify, Machine.padded, List.length_append,
      List.length_replicate, h.length_parts]
  part q := by
    rw [part_addChild, part_addChild]
    split
    · exact List.rel_append (h.part p) (.cons hab .nil)
    · exact h.part q
  parents := h.parents
  parents' := h.parents'

theorem addParent (h : m₁.Alike v m₂) (hab : v a b) (p : Nat) :
    (m₁.addParent ⟨a, p⟩).Alike v (m₂.addParent ⟨b, p⟩) where
  name := h.name
  control := h.control
  length_parts := h.length_parts
  part := h.part
  parents link hlink := by
    rcases SortedList.mem_insert.1 hlink with rfl | hlink
    · exact ⟨b, hab, SortedList.mem_insert.2 (.inl rfl)⟩
    · obtain ⟨other, hpair, hmem⟩ := h.parents link hlink
      exact ⟨other, hpair, SortedList.mem_insert.2 (.inr hmem)⟩
  parents' link hlink := by
    rcases SortedList.mem_insert.1 hlink with rfl | hlink
    · exact ⟨a, hab, SortedList.mem_insert.2 (.inl rfl)⟩
    · obtain ⟨other, hpair, hmem⟩ := h.parents' link hlink
      exact ⟨other, hpair, SortedList.mem_insert.2 (.inr hmem)⟩

theorem any_parents (h : m₁.Alike v m₂) {f₁ f₂ : Link → Bool}
    (hf : ∀ a b p, v a b → f₁ ⟨a, p⟩ = f₂ ⟨b, p⟩) : m₁.parents.any f₁ = m₂.parents.any f₂ := by
  rw [Bool.eq_iff_iff, List.any_eq_true, List.any_eq_true]
  constructor
  · rintro ⟨link, hlink, hfl⟩
    obtain ⟨other, hpair, hmem⟩ := h.parents link hlink
    exact ⟨_, hmem, (hf link.parent other link.partition hpair) ▸ hfl⟩
  · rintro ⟨link, hlink, hfl⟩
    obtain ⟨other, hpair, hmem⟩ := h.parents' link hlink
    exact ⟨_, hmem, (hf other link.parent link.partition hpair).symm ▸ hfl⟩

end Machine.Alike

/-! ## Graphs -/

/-- What is paired is live and alike. -/
def Graph.Paired (v : Pairing) (g₁ g₂ : Graph) : Prop :=
  ∀ a b, v a b → ∃ m₁ m₂, g₁.find? a = some m₁ ∧ g₂.find? b = some m₂ ∧ m₁.Alike v m₂

namespace Graph.Paired

variable {v : Pairing} {g₁ g₂ : Graph} {a b : MachineId}

theorem contains_left (h : Paired v g₁ g₂) (hab : v a b) : g₁.contains a = true :=
  let ⟨_, _, hm, _, _⟩ := h a b hab
  contains_of_find? hm

theorem contains_right (h : Paired v g₁ g₂) (hab : v a b) : g₂.contains b = true :=
  let ⟨_, _, _, hm, _⟩ := h a b hab
  contains_of_find? hm

theorem name?_eq (h : Paired v g₁ g₂) (hab : v a b) : g₁.name? a = g₂.name? b := by
  obtain ⟨m₁, m₂, h₁, h₂, halike⟩ := h a b hab
  simp [name?, h₁, h₂, halike.name]

theorem control?_eq (h : Paired v g₁ g₂) (hab : v a b) : g₁.control? a = g₂.control? b := by
  obtain ⟨m₁, m₂, h₁, h₂, halike⟩ := h a b hab
  simp [control?, h₁, h₂, halike.control]

theorem update (h : Paired v g₁ g₂) (hv : Relator.BiUnique v) (hab : v a b)
    {f₁ f₂ : Machine → Machine} (hf : ∀ m₁ m₂, m₁.Alike v m₂ → (f₁ m₁).Alike v (f₂ m₂)) :
    Paired v (g₁.update a f₁) (g₂.update b f₂) := by
  intro x y hxy
  obtain ⟨m₁, m₂, h₁, h₂, halike⟩ := h x y hxy
  rw [find?_update, find?_update]
  by_cases hx : x = a
  · have hy : y = b := (Pairing.eq_iff hv hxy hab).1 hx
    subst hx hy
    exact ⟨_, _, by rw [if_pos rfl, h₁]; rfl, by rw [if_pos rfl, h₂]; rfl, hf m₁ m₂ halike⟩
  · have hy : y ≠ b := mt (Pairing.eq_iff hv hxy hab).2 hx
    exact ⟨m₁, m₂, by rw [if_neg hx, h₁], by rw [if_neg hy, h₂], halike⟩

theorem mono {v' : Pairing} (h : Paired v g₁ g₂) (hv : v ≤ v') {a b : MachineId} (hab : v a b) :
    ∃ m₁ m₂, g₁.find? a = some m₁ ∧ g₂.find? b = some m₂ ∧ m₁.Alike v' m₂ :=
  let ⟨m₁, m₂, h₁, h₂, halike⟩ := h a b hab
  ⟨m₁, m₂, h₁, h₂, halike.mono hv⟩

theorem link (h : Paired v g₁ g₂) (hv : Relator.BiUnique v) {p₁ p₂ c₁ c₂ : MachineId}
    (hp : v p₁ p₂) (hc : v c₁ c₂) (i : Nat) : Paired v (g₁.link p₁ c₁ i) (g₂.link p₂ c₂ i) := by
  have hchild := h.update hv hp fun _ _ halike => halike.addChild hc i
  exact hchild.update hv hc fun _ _ halike => halike.addParent hp i

/-- Links between paired machines are drawn, or found to be there, on both sides. -/
theorem append (h : Paired v g₁ g₂) (hv : Relator.BiUnique v) {p₁ p₂ c₁ c₂ : MachineId}
    (hp : v p₁ p₂) (hc : v c₁ c₂) (i : Nat) :
    ∃ g₁' g₂', g₁.append p₁ c₁ i = .ok g₁' ∧ g₂.append p₂ c₂ i = .ok g₂' ∧ Paired v g₁' g₂' := by
  obtain ⟨m₁, m₂, h₁, h₂, halike⟩ := h p₁ p₂ hp
  refine ⟨_, _, append_eq h₁ (h.contains_left hc), append_eq h₂ (h.contains_right hc), ?_⟩
  have hiff := Pairing.mem_iff hv hc (halike.part i)
  by_cases hmem : c₂ ∈ m₂.part i
  · rw [if_pos hmem, if_pos (hiff.2 hmem)]
    exact h
  · rw [if_neg hmem, if_neg (mt hiff.1 hmem)]
    exact h.link hv hp hc i

theorem create (h : Paired v g₁ g₂) (hs₁ : g₁.SlotsOrdered) (hs₂ : g₂.SlotsOrdered) (name : String)
    (control : Option Control) :
    Paired (v.add (g₁.create name control).1 (g₂.create name control).1) (g₁.create name control).2
      (g₂.create name control).2 := by
  rintro x y (hxy | ⟨rfl, rfl⟩)
  · rw [hs₁.find?_create_of_contains name control (h.contains_left hxy),
      hs₂.find?_create_of_contains name control (h.contains_right hxy)]
    exact h.mono (v.le_add _ _) hxy
  · exact ⟨_, _, hs₁.find?_create_self name control, hs₂.find?_create_self name control,
      Machine.Alike.bare name control⟩

end Graph.Paired

/-! ## Copies -/

/-- Copies of one machine are paired. -/
def Pairing.ofCopies (pairs₁ pairs₂ : List (MachineId × MachineId)) : Pairing :=
  fun x y => ∃ a, (a, x) ∈ pairs₁ ∧ (a, y) ∈ pairs₂

namespace Graph.Copied

variable {g₁ g₁' g₂ g₂' : Graph} {root copy₁ copy₂ : MachineId}
  {pairs₁ pairs₂ : List (MachineId × MachineId)}

theorem biUnique (h₁ : Copied g₁ g₁' root copy₁ pairs₁) (h₂ : Copied g₂ g₂' root copy₂ pairs₂) :
    Relator.BiUnique (Pairing.ofCopies pairs₁ pairs₂) := by
  constructor
  · rintro x z y ⟨a, hax, hay⟩ ⟨b, hbx, hby⟩
    obtain rfl := eq_of_mem_of_mem h₂.nodup_copies hay hby
    exact Option.some.inj ((copyOf?_of_mem h₁.nodup_originals hax).symm.trans
      (copyOf?_of_mem h₁.nodup_originals hbx))
  · rintro x y z ⟨a, hax, hay⟩ ⟨b, hbx, hbz⟩
    obtain rfl := eq_of_mem_of_mem h₁.nodup_copies hax hbx
    exact Option.some.inj ((copyOf?_of_mem h₂.nodup_originals hay).symm.trans
      (copyOf?_of_mem h₂.nodup_originals hbz))

theorem copyOf?_paired (h₁ : Copied g₁ g₁' root copy₁ pairs₁) (h₂ : Copied g₂ g₂' root copy₂ pairs₂)
    (htree : g₁.descendants [root] = g₂.descendants [root]) (a : MachineId) :
    Option.Rel (Pairing.ofCopies pairs₁ pairs₂) (copyOf? pairs₁ a) (copyOf? pairs₂ a) := by
  have hsame : pairs₁.map (·.1) = pairs₂.map (·.1) := by
    rw [h₁.originals, h₂.originals, htree]
  by_cases ha : a ∈ pairs₁.map (·.1)
  · obtain ⟨⟨_, x⟩, hx, rfl⟩ := List.mem_map.1 ha
    obtain ⟨⟨_, y⟩, hy, rfl⟩ := List.mem_map.1 (hsame ▸ ha)
    rw [copyOf?_of_mem h₁.nodup_originals hx, copyOf?_of_mem h₂.nodup_originals hy]
    exact .some ⟨_, hx, hy⟩
  · have hnone : ∀ pairs : List (MachineId × MachineId), a ∉ pairs.map (·.1) →
        copyOf? pairs a = none := by
      intro pairs hmem
      by_contra hne
      obtain ⟨x, hx⟩ := Option.ne_none_iff_exists'.1 hne
      exact hmem (List.mem_map.2 ⟨(a, x), mem_of_copyOf? hx, rfl⟩)
    rw [hnone pairs₁ ha, hnone pairs₂ (hsame ▸ ha)]
    exact .none

theorem alike (h₁ : Copied g₁ g₁' root copy₁ pairs₁) (h₂ : Copied g₂ g₂' root copy₂ pairs₂)
    (htree : g₁.descendants [root] = g₂.descendants [root]) (m : Machine) :
    (relabel pairs₁ m).Alike (Pairing.ofCopies pairs₁ pairs₂) (relabel pairs₂ m) where
  name := rfl
  control := rfl
  length_parts := by simp only [relabel, List.length_map]
  part p := by
    rw [part_relabel, part_relabel]
    refine List.rel_filterMap (R := Eq) ?_ (List.forall₂_eq_eq_eq ▸ rfl)
    rintro a _ rfl
    exact h₁.copyOf?_paired h₂ htree a
  parents := by
    rintro ⟨x, j⟩ hlink
    obtain ⟨a, ha, hx⟩ := mem_parents_relabel.1 hlink
    have hrel := h₁.copyOf?_paired h₂ htree a
    rw [hx] at hrel
    cases hy : copyOf? pairs₂ a with
    | none =>
      rw [hy] at hrel
      cases hrel
    | some y => exact ⟨y, ⟨a, mem_of_copyOf? hx, mem_of_copyOf? hy⟩, mem_parents_relabel.2 ⟨a, ha, hy⟩⟩
  parents' := by
    rintro ⟨y, j⟩ hlink
    obtain ⟨a, ha, hy⟩ := mem_parents_relabel.1 hlink
    have hrel := h₁.copyOf?_paired h₂ htree a
    rw [hy] at hrel
    cases hx : copyOf? pairs₁ a with
    | none =>
      rw [hx] at hrel
      cases hrel
    | some x => exact ⟨x, ⟨a, mem_of_copyOf? hx, mem_of_copyOf? hy⟩, mem_parents_relabel.2 ⟨a, ha, hx⟩⟩

end Graph.Copied

/-! ## One side -/

/-- A lexicon that works beside the background `base` without touching it. -/
structure Lexicon.Confined (base l : Lexicon) : Prop where
  background : base.Sound
  sound : l.Sound
  statics : l.statics = base.statics
  frame : ∀ id m, base.graph.find? id = some m → l.graph.find? id = some m
  dead : ∀ id ∈ base.statics.values, base.graph.contains id = false → l.graph.contains id = false
  apart : ∀ id ∈ l.order, base.graph.contains id = false

namespace Lexicon.Confined

variable {base l : Lexicon} {g : Graph} {id p c : MachineId} {i : Nat}

theorem contains_of_base (h : Confined base l) (hid : base.graph.contains id = true) :
    l.graph.contains id = true :=
  let ⟨m, hm⟩ := Graph.contains_iff.1 hid
  Graph.contains_of_find? (h.frame id m hm)

theorem of_graph (h : Confined base l) (hg : Graph.Evolves l.graph g)
    (hframe : ∀ id, base.graph.contains id = true → g.find? id = l.graph.find? id) :
    Confined base { l with graph := g } where
  background := h.background
  sound := (h.sound.evolves_graph hg).sound
  statics := h.statics
  frame id m hm := (hframe id (Graph.contains_of_find? hm)).trans (h.frame id m hm)
  dead id hid hdead := by
    refine Bool.eq_false_iff.2 ?_
    intro hlive
    have hold := hg.ages.stale id (h.sound.known id (h.statics ▸ hid)) hlive
    rw [h.dead id hid hdead] at hold
    cases hold
  apart := h.apart

theorem of_eq {l' : Lexicon} (h : Confined base l) (hgraph : l'.graph = l.graph)
    (hstatics : l'.statics = l.statics) (hapart : ∀ id ∈ l'.order, base.graph.contains id = false) :
    Confined base l' where
  background := h.background
  sound := h.sound.of_eq hgraph hstatics
  statics := hstatics.trans h.statics
  frame id m hm := hgraph ▸ h.frame id m hm
  dead id hid hdead := hgraph ▸ h.dead id hid hdead
  apart := hapart

theorem create (h : Confined base l) (name : String) (control : Option Control) :
    Confined base { l with graph := (l.graph.create name control).2 } :=
  h.of_graph (h.sound.graph.evolves_create name control) fun _ hid =>
    h.sound.graph.slots.find?_create_of_contains name control (h.contains_of_base hid)

theorem append (h : Confined base l) (hp : base.graph.contains p = false)
    (hc : base.graph.contains c = false) (hg : l.graph.append p c i = .ok g) :
    Confined base { l with graph := g } := by
  refine h.of_graph (h.sound.graph.evolves_append hg) ?_
  intro id hid
  obtain ⟨-, -, ⟨-, rfl⟩ | ⟨-, rfl⟩⟩ := Graph.append_cases hg
  · rfl
  · have hpid : id ≠ p := fun heq => by rw [heq, hp] at hid; cases hid
    have hcid : id ≠ c := fun heq => by rw [heq, hc] at hid; cases hid
    rw [Graph.link, Graph.find?_update, if_neg hcid, Graph.find?_update, if_neg hpid]

theorem setControl (h : Confined base l) (hid : base.graph.contains id = false)
    {control : Option Control} (hg : l.graph.setControl id control = .ok g) :
    Confined base { l with graph := g } := by
  refine h.of_graph (h.sound.graph.evolves_setControl hg) ?_
  intro other hother
  obtain ⟨-, rfl⟩ := Graph.setControl_cases hg
  have hne : other ≠ id := fun heq => by rw [heq, hid] at hother; cases hother
  rw [Graph.find?_update, if_neg hne]

theorem deepCopy (h : Confined base l) {root copy : MachineId} {pairs : List (MachineId × MachineId)}
    (hcopy : Graph.Copied l.graph g root copy pairs) : Confined base { l with graph := g } :=
  h.of_graph (hcopy.evolves h.sound.graph) fun _ hid => hcopy.find?_old (h.contains_of_base hid)

/-- The tree below a machine of the background is what it is there. -/
theorem descendants_eq (h : Confined base l) {root : MachineId}
    (hroot : base.graph.contains root = true) :
    l.graph.descendants [root] = base.graph.descendants [root] := by
  refine Search.preorder_congr (P := fun id => base.graph.contains id = true) Graph.nodup_handles
    Graph.nodup_handles (fun a ha => List.mem_singleton.1 ha ▸ hroot) (fun a ha b hb => ?_)
    (fun a ha => ?_) fun a ha => ?_
  · obtain ⟨m, hm⟩ := Graph.contains_iff.1 ha
    simp only [Graph.linksOf, hm] at hb
    obtain ⟨q, hq⟩ := Machine.mem_links_iff.1 hb
    exact h.background.graph.contains_child ⟨m, hm, hq⟩
  · obtain ⟨m, hm⟩ := Graph.contains_iff.1 ha
    rw [Graph.linksOf, Graph.linksOf, hm, h.frame a m hm]
  · rw [Graph.mem_handles_iff, Graph.mem_handles_iff]
    exact ⟨fun _ => ha, fun _ => h.contains_of_base ha⟩

end Lexicon.Confined

end MeaningGraph
