/-
# Paths around blocked machines, and what releasing keeps

The walk `connected` takes a link in either direction, and never enters a blocked machine:

    root ──▶ x ◀── y ──▶ blocked          finds `root`, `x` and `y`
                   └───▶ z                and `z`

A path starts from a root, and only its end has to be live: a machine from which a link leads on is live
already.  So the equivalence does not ask the graph to be in order.

Releasing keeps what is below the roots.  Where that is everything, releasing is no change at all.
-/
import MeaningGraph.Proofs.Graph.Isomorphism

namespace MeaningGraph.Graph

variable {g : Graph} {a b : MachineId} {roots blocked : List MachineId}

/-! ## Along links in both directions -/

/-- A link joins the machines, in the one direction or the other. -/
def Adjacent (g : Graph) (a b : MachineId) : Prop :=
  ∃ i, g.Holds a i b ∨ g.HeldBy a b i

theorem Adjacent.contains (h : g.Adjacent a b) : g.contains a = true := by
  obtain ⟨i, hold | hheld⟩ := h
  · exact hold.contains
  · exact hheld.contains

theorem mem_neighbours_iff : b ∈ g.neighbours a ↔ g.Adjacent a b := by
  unfold neighbours Adjacent Holds HeldBy
  cases g.find? a with
  | none => simp
  | some m =>
    simp only [List.mem_append, Machine.mem_links_iff, Machine.parentIds, List.mem_map,
      Option.some.injEq, exists_eq_left', exists_or]
    refine or_congr Iff.rfl ⟨?_, ?_⟩
    · rintro ⟨⟨p, i⟩, hlink, rfl⟩
      exact ⟨i, hlink⟩
    · rintro ⟨i, hlink⟩
      exact ⟨⟨b, i⟩, hlink, rfl⟩

/-- A path along links in both directions that never enters a blocked machine. -/
def PathAround (g : Graph) (blocked : List MachineId) (a b : MachineId) : Prop :=
  Relation.ReflTransGen (fun x y => g.Adjacent x y ∧ y ∉ blocked) a b

theorem mem_unblocked_iff :
    a ∈ g.handles.filter (fun id => id ∉ blocked) ↔ g.contains a = true ∧ a ∉ blocked := by
  simp [mem_handles_iff]

/-- The walk around the blocked machines finds the live machines that such a path joins to a root which
is not blocked. -/
theorem mem_connected_iff :
    b ∈ g.connected roots blocked ↔
      g.contains b = true ∧ ∃ a ∈ roots, a ∉ blocked ∧ g.PathAround blocked a b := by
  constructor
  · intro hb
    obtain ⟨a, ha, hfresh, path⟩ := Search.mem_preorder_iff.1 hb
    refine ⟨(mem_unblocked_iff.1 (Search.preorder_subset hb)).1, a, ha, (mem_unblocked_iff.1 hfresh).2, ?_⟩
    refine Relation.ReflTransGen.mono ?_ _ _ path
    intro x y hstep
    exact ⟨mem_neighbours_iff.1 hstep.1, (mem_unblocked_iff.1 hstep.2).2⟩
  · rintro ⟨hlive, a, ha, hfresh, path⟩
    induction path with
    | refl => exact Search.mem_preorder_of_pending ha (mem_unblocked_iff.2 ⟨hlive, hfresh⟩)
    | tail _ hstep ih =>
      obtain ⟨hadj, hopen⟩ := hstep
      exact Search.mem_preorder_of_follows (ih hadj.contains)
        ⟨mem_neighbours_iff.2 hadj, mem_unblocked_iff.2 ⟨hlive, hopen⟩⟩

/-! ## Releasing nothing -/

theorem releaseSlot_eq_self {kept : List MachineId} {i : Nat} {slot : Slot}
    (h : ∀ m, slot.machine = some m →
      ⟨i, slot.generation⟩ ∈ kept ∧ ∀ link ∈ m.parents, link.parent ∈ kept) :
    releaseSlot kept i slot = slot := by
  obtain ⟨generation, occupant⟩ := slot
  cases occupant with
  | none => rfl
  | some m =>
    obtain ⟨hkept, hparents⟩ := h m rfl
    simp only [releaseSlot, if_pos hkept]
    rw [Machine.keepParents_eq_self fun link hlink => decide_eq_true (hparents link hlink)]

theorem Sound.retain_eq_self (h : g.Sound)
    (hall : ∀ id, g.contains id = true → id ∈ g.descendants roots) : g.retain roots = (0, g) := by
  have hfreed : g.handles.filter (fun id => id ∉ g.descendants roots) = [] :=
    List.filter_eq_nil_iff.2 fun id hid => by
      simpa using hall id (mem_handles_iff.1 hid)
  have hslots : g.slots.mapIdx (releaseSlot (g.descendants roots)) = g.slots := by
    refine Array.ext (by simp) fun i _ hi => ?_
    rw [Array.getElem_mapIdx]
    refine releaseSlot_eq_self fun m hm => ?_
    have hfind : g.find? ⟨i, g.slots[i].generation⟩ = some m := by
      simp [find?, Array.getElem?_eq_getElem hi, hm]
    refine ⟨hall _ (contains_of_find? hfind), fun link hlink => ?_⟩
    exact hall _ (h.contains_parent ⟨m, hfind, hlink⟩)
  simp only [retain, hfreed, hslots]
  rfl

end MeaningGraph.Graph
