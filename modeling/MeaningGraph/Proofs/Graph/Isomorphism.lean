/-
# Copies are isomorphic

A machine is below the root when child links lead there from the root; the links may run in cycles, and a
machine may be held by several others.  `IsCopy g g' root f` says that `f` maps what is below the root onto new
machines and that everything is there again among them:

    name, control       those of the machine
    partitions          as many, with the images of the children in their order
    back-links          (f p, i) for each machine p below the root that holds the machine in partition i

Back-links from machines outside stay behind, and the old machines are as they were.

The walk that `deepCopy` makes finds exactly what is below the root (`Sound.mem_descendants_iff`), so each child of a
copied machine is copied, and no child is lost when the links are drawn among the copies.
-/
import Mathlib.Data.Set.Card
import MeaningGraph.Proofs.Graph.Handles
import MeaningGraph.Proofs.Lexicon.History

namespace MeaningGraph

namespace Graph

variable {g g' : Graph} {root copy m c : MachineId} {roots : List MachineId} {i : Nat} {old : Machine}

/-! ## What is below a machine -/

/-- Child links lead from the one machine to the other. -/
def Below (g : Graph) (root m : MachineId) : Prop :=
  Relation.ReflTransGen (fun p c => ∃ i, g.Holds p i c) root m

theorem Below.child (h : g.Below root m) (hc : g.Holds m i c) : g.Below root c :=
  h.tail ⟨i, hc⟩

theorem Sound.contains_of_below (h : g.Sound) (hroot : g.contains root = true) (hm : g.Below root m) :
    g.contains m = true := by
  induction hm with
  | refl => exact hroot
  | tail _ hstep _ =>
    obtain ⟨i, hold⟩ := hstep
    exact h.contains_child hold

/-- The walk down from several roots finds the live machines below one of them.  Only the end of the path has to be
live, as a machine that holds another is live already; so the graph need not be in order. -/
theorem mem_descendants_roots_iff :
    m ∈ g.descendants roots ↔ g.contains m = true ∧ ∃ a ∈ roots, g.Below a m := by
  constructor
  · intro hm
    obtain ⟨a, ha, -, path⟩ := Search.mem_preorder_iff.1 hm
    refine ⟨mem_handles_iff.1 (mem_handles_of_mem_descendants hm), a, ha, ?_⟩
    exact Relation.ReflTransGen.mono (fun _ _ hstep => mem_linksOf_iff.1 hstep.1) _ _ path
  · rintro ⟨hlive, a, ha, path⟩
    induction path with
    | refl => exact Search.mem_preorder_of_pending ha (mem_handles_iff.2 hlive)
    | tail _ hstep ih =>
      obtain ⟨i, hold⟩ := hstep
      exact Search.mem_preorder_of_follows (ih hold.contains)
        ⟨mem_linksOf_iff.2 ⟨i, hold⟩, mem_handles_iff.2 hlive⟩

/-- The walk down from a live machine finds what is below it. -/
theorem Sound.mem_descendants_iff (h : g.Sound) (hroot : g.contains root = true) :
    m ∈ g.descendants [root] ↔ g.Below root m := by
  rw [mem_descendants_roots_iff]
  constructor
  · rintro ⟨-, a, ha, hbelow⟩
    obtain rfl := List.mem_singleton.1 ha
    exact hbelow
  · intro hm
    exact ⟨h.contains_of_below hroot hm, root, List.mem_cons_self, hm⟩

/-! ## The image of a machine -/

/-- `new` is the image of the machine `old`, whose handle is `m`. -/
structure IsImage (g : Graph) (root : MachineId) (f : MachineId → MachineId) (m : MachineId)
    (old new : Machine) : Prop where
  name : new.name = old.name
  control : new.control = old.control
  parts : new.parts = old.parts.map (·.map f)
  parents : ∀ link, link ∈ new.parents ↔
    ∃ p, g.Below root p ∧ g.Holds p link.partition m ∧ link.parent = f p

/-- `g'` has new machines in the image of those below the root, and is otherwise `g`. -/
structure IsCopy (g g' : Graph) (root : MachineId) (f : MachineId → MachineId) : Prop where
  injective : Set.InjOn f {m | g.Below root m}
  fresh : ∀ m, g.Below root m → ¬ g.Known (f m) ∧ g.contains (f m) = false
  image : ∀ m, g.Below root m →
    ∃ old new, g.find? m = some old ∧ g'.find? (f m) = some new ∧ IsImage g root f m old new
  kept : ∀ id, g.contains id = true → g'.find? id = g.find? id
  live : g'.live = g.live + {m | g.Below root m}.ncard

/-- The copy that the walk down from the root makes of a machine. -/
def imageOf (g : Graph) (root m : MachineId) : MachineId :=
  (copyOf? (g.copies root) m).getD m

section

variable (h : g.Sound) (hroot : g.contains root = true)
  (hcopy : Copied g g' root copy (g.copies root))

include h hroot hcopy

theorem Copied.mem_copies (hm : g.Below root m) : (m, g.imageOf root m) ∈ g.copies root := by
  have hmem : m ∈ (g.copies root).map (·.1) := by
    rw [hcopy.originals, h.mem_descendants_iff hroot]
    exact hm
  obtain ⟨⟨a, b⟩, hab, rfl⟩ := List.mem_map.1 hmem
  rw [imageOf, copyOf?_of_mem hcopy.nodup_originals hab]
  exact hab

theorem Copied.copyOf?_iff {x : MachineId} :
    copyOf? (g.copies root) m = some x ↔ g.Below root m ∧ x = g.imageOf root m := by
  constructor
  · intro hx
    refine ⟨?_, by rw [imageOf, hx]; rfl⟩
    rw [← h.mem_descendants_iff hroot, ← hcopy.originals]
    exact List.mem_map_of_mem (mem_of_copyOf? hx)
  · rintro ⟨hm, rfl⟩
    exact copyOf?_of_mem hcopy.nodup_originals (hcopy.mem_copies h hroot hm)

theorem Copied.parts_relabel (hm : g.Below root m) (hold : g.find? m = some old) :
    (relabel (g.copies root) old).parts = old.parts.map (·.map (g.imageOf root)) := by
  refine List.map_congr_left ?_
  intro part hpart
  rw [← List.filterMap_eq_map]
  refine List.filterMap_congr ?_
  intro c hc
  obtain ⟨i, hi⟩ := List.mem_iff_getElem?.1 hpart
  have hholds : g.Holds m i c := ⟨old, hold, Machine.mem_part_iff.2 ⟨part, hi, hc⟩⟩
  exact (hcopy.copyOf?_iff h hroot).2 ⟨hm.child hholds, rfl⟩

theorem Copied.mem_parents_relabel_iff (hold : g.find? m = some old) (link : Link) :
    link ∈ (relabel (g.copies root) old).parents ↔
      ∃ p, g.Below root p ∧ g.Holds p link.partition m ∧ link.parent = g.imageOf root p := by
  obtain ⟨x, j⟩ := link
  rw [mem_parents_relabel]
  refine exists_congr ?_
  intro p
  rw [hcopy.copyOf?_iff h hroot, h.links.holds_iff, heldBy_iff_of_find? hold]
  exact and_left_comm

theorem Copied.live_eq : g'.live = g.live + {m | g.Below root m}.ncard := by
  have hall : ∀ id, id ∈ g.handles ++ (g.copies root).map (·.2) ↔ g'.contains id = true := by
    intro id
    rw [List.mem_append, mem_handles_iff]
    constructor
    · rintro (hold | hnew)
      · rw [contains, hcopy.find?_old hold]
        exact hold
      · obtain ⟨⟨a, b⟩, hab, rfl⟩ := List.mem_map.1 hnew
        obtain ⟨old, hold⟩ := hcopy.find?_original hab
        rw [contains, hcopy.find?_copy a b hab, hold]
        rfl
    · exact (hcopy.givesOut h).live id
  have hnodup : (g.handles ++ (g.copies root).map (·.2)).Nodup := by
    refine List.Nodup.append nodup_handles hcopy.nodup_copies ?_
    intro id hold hnew
    obtain ⟨⟨a, b⟩, hab, rfl⟩ := List.mem_map.1 hnew
    exact hcopy.fresh a b hab (.of_contains (mem_handles_iff.1 hold))
  have hbelow : {m | g.Below root m}.ncard = (g.copies root).length := by
    rw [ncard_of_nodup hcopy.nodup_originals, List.length_map]
    intro id
    rw [hcopy.originals, h.mem_descendants_iff hroot]
  rw [hcopy.slots.live_eq_ncard, ncard_of_nodup hnodup hall, h.slots.live_eq, hbelow,
    List.length_append, List.length_map]

theorem Copied.isCopy : IsCopy g g' root (g.imageOf root) where
  injective := by
    intro a ha b hb hab
    have hmem := hcopy.mem_copies h hroot hb
    rw [← hab] at hmem
    exact eq_of_mem_of_mem hcopy.nodup_copies (hcopy.mem_copies h hroot ha) hmem
  fresh m hm := by
    have hmem := hcopy.mem_copies h hroot hm
    exact ⟨hcopy.fresh _ _ hmem, hcopy.not_contains hmem⟩
  image m hm := by
    have hmem := hcopy.mem_copies h hroot hm
    obtain ⟨old, hold⟩ := hcopy.find?_original hmem
    refine ⟨old, relabel (g.copies root) old, hold, ?_, ?_⟩
    · rw [hcopy.find?_copy _ _ hmem, hold]
      rfl
    · exact ⟨rfl, rfl, hcopy.parts_relabel h hroot hm hold, hcopy.mem_parents_relabel_iff h hroot hold⟩
  kept _ hid := hcopy.find?_old hid
  live := hcopy.live_eq h hroot

end

/-- A live machine of a graph in order can be copied, and the copy is isomorphic. -/
theorem Sound.exists_isCopy (h : g.Sound) (hroot : g.contains root = true) :
    ∃ copy g' f, g.deepCopy root = .ok (copy, g') ∧ f root = copy ∧ IsCopy g g' root f := by
  obtain ⟨copy, g', hok, hcopy⟩ := h.copied hroot
  refine ⟨copy, g', g.imageOf root, hok, ?_, hcopy.isCopy h hroot⟩
  rw [imageOf, copyOf?_of_mem hcopy.nodup_originals hcopy.root_mem]
  rfl

end Graph

namespace Lexicon

/-- In every graph that can be reached, copying a live machine succeeds, also where the links below it run in
cycles or meet again.  There is an injective map from the machines below it to machines that were not live
before, and never were; it takes the machine to the answer, and each machine to one with the same name and
control, as many partitions, the images of the children in each of them in the same order, and the images of the
links that hold it from below the machine.  What was live before is unchanged, and the number of live machines
grows by that of the machines below. -/
theorem deepCopy_isomorphic {l : Lexicon} (hl : l.Reachable) {root : MachineId}
    (hroot : l.graph.contains root = true) :
    ∃ copy g' f, l.graph.deepCopy root = .ok (copy, g') ∧ f root = copy ∧
      l.graph.IsCopy g' root f :=
  hl.sound.graph.exists_isCopy hroot

/-- A train and its two cars, which lead back to the train, one of them held twice. -/
def shuttle : Lexicon :=
  empty.replay [.create "train" none, .create "car" none, .create "car" none, .append ⟨0, 1⟩ ⟨1, 1⟩ 1,
    .append ⟨0, 1⟩ ⟨2, 1⟩ 1, .append ⟨1, 1⟩ ⟨2, 1⟩ 2, .append ⟨2, 1⟩ ⟨0, 1⟩ 0]

theorem deepCopy_isomorphic_shuttle :
    shuttle.Reachable ∧ shuttle.graph.contains ⟨0, 1⟩ = true ∧
      ∃ copy g' f, shuttle.graph.deepCopy ⟨0, 1⟩ = .ok (copy, g') ∧ f ⟨0, 1⟩ = copy ∧
        shuttle.graph.IsCopy g' ⟨0, 1⟩ f := by
  have hreach : shuttle.Reachable := ⟨_, rfl⟩
  have hlive : shuttle.graph.contains ⟨0, 1⟩ = true := by decide
  exact ⟨hreach, hlive, deepCopy_isomorphic hreach hlive⟩

end Lexicon

end MeaningGraph
