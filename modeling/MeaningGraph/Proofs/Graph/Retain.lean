/-
# Releasing keeps what is below the roots

Which machines stay is said by child links alone:

    stays   ↔   some live root leads there down child links

The set of those is closed under children, so a machine that stays loses none of its children; of its back-links it
loses those to machines that go.  Links between two machines that stay are as before, and so each of them is still
below its root: releasing once more finds the same machines, frees none and changes nothing.
-/
import MeaningGraph.Proofs.Graph.Connected

namespace MeaningGraph

namespace Graph

variable {g : Graph} {a id : MachineId} {roots : List MachineId}

theorem Below.contains_root (h : g.Below a id) (hid : g.contains id = true) : g.contains a = true := by
  rcases Relation.ReflTransGen.cases_head h with rfl | ⟨b, ⟨i, hold⟩, -⟩
  · exact hid
  · exact hold.contains

theorem Sound.mem_descendants_live_roots_iff (h : g.Sound) :
    id ∈ g.descendants roots ↔ ∃ a ∈ roots, g.contains a = true ∧ g.Below a id := by
  rw [mem_descendants_roots_iff]
  constructor
  · rintro ⟨hid, a, ha, hbelow⟩
    exact ⟨a, ha, hbelow.contains_root hid, hbelow⟩
  · rintro ⟨a, ha, hlive, hbelow⟩
    exact ⟨h.contains_of_below hlive hbelow, a, ha, hbelow⟩

/-- `g'` is what releasing makes of `g`, when `freed` machines go. -/
structure Retained (g g' : Graph) (roots : List MachineId) (freed : Nat) : Prop where
  live : ∀ id, g'.contains id = true ↔ ∃ a ∈ roots, g.contains a = true ∧ g.Below a id
  kept : ∀ id, g'.contains id = true → ∃ m, g.find? id = some m ∧
    g'.find? id = some { m with parents := m.parents.filter fun link => g'.contains link.parent }
  freed : freed + g'.live = g.live

theorem decide_mem_descendants (g : Graph) (roots : List MachineId) (id : MachineId) :
    decide (id ∈ g.descendants roots) = (g.retain roots).2.contains id := by
  rw [Bool.eq_iff_iff, decide_eq_true_iff, contains_retain]

theorem SlotsOrdered.freed_add_live (h : g.SlotsOrdered) (roots : List MachineId) :
    (g.retain roots).1 + (g.retain roots).2.live = g.live := by
  have hle : (g.retain roots).1 ≤ g.live := by
    rw [h.live_eq]
    exact List.length_filter_le ..
  have hlive : (g.retain roots).2.live = g.live - (g.retain roots).1 := rfl
  omega

theorem Sound.retained (h : g.Sound) (roots : List MachineId) :
    Retained g (g.retain roots).2 roots (g.retain roots).1 where
  live id := (contains_retain g roots id).trans h.mem_descendants_live_roots_iff
  kept id hid := by
    have hmem := (contains_retain g roots id).1 hid
    obtain ⟨m, hm⟩ := contains_iff.1 (mem_handles_iff.1 (mem_handles_of_mem_descendants hmem))
    refine ⟨m, hm, ?_⟩
    rw [find?_retain, if_pos hmem, hm]
    simp only [decide_mem_descendants]
    rfl
  freed := h.slots.freed_add_live roots

/-- A path down child links from a root runs among machines that stay, and with them its links. -/
theorem Sound.below_retain (h : g.Sound) (ha : a ∈ g.descendants roots) (hbelow : g.Below a id) :
    (g.retain roots).2.Below a id ∧ id ∈ g.descendants roots := by
  induction hbelow with
  | refl => exact ⟨.refl, ha⟩
  | tail _ hstep ih =>
    obtain ⟨i, hold⟩ := hstep
    exact ⟨ih.1.child (holds_retain.2 ⟨hold, ih.2⟩), h.mem_descendants_of_holds ih.2 hold⟩

theorem Sound.retain_retain (h : g.Sound) (roots : List MachineId) :
    (g.retain roots).2.retain roots = (0, (g.retain roots).2) := by
  refine (h.evolves_retain roots).sound.retain_eq_self fun id hid => ?_
  obtain ⟨a, ha, hlive, hbelow⟩ := ((h.retained roots).live id).1 hid
  have hroot : a ∈ g.descendants roots := Search.mem_preorder_of_pending ha (mem_handles_iff.2 hlive)
  exact mem_descendants_roots_iff.2 ⟨hid, a, ha, (h.below_retain hroot hbelow).1⟩

/-- A handle that is stale after a change and was given out before it is refused from then on. -/
theorem Ages.refuses {g' : Graph} (h : Ages g g') (hknown : g.Known id) (hdead : g.contains id = false) :
    g'.Refuses id := by
  refine refuses_of_not_contains (Bool.eq_false_iff.2 fun hlive => ?_)
  rw [h.stale id hknown hlive] at hdead
  cases hdead

end Graph

namespace Lexicon

/-- In every graph that can be reached and for every list of roots, stale or repeated ones and roots below one
another included, releasing keeps exactly the machines to which child links lead from a live root, each under its
handle with its name, its control, its partitions and the back-links to parents that stay.  It answers by how many
the machines become fewer.  Every other handle is refused afterwards, and one that was ever given out is refused
after any further calls; releasing again from the same roots frees no machine and leaves the graph as it is. -/
theorem retain_keeps_reachable {l : Lexicon} (hl : l.Reachable) (roots : List MachineId) :
    l.graph.Retained (l.graph.retain roots).2 roots (l.graph.retain roots).1 ∧
    (∀ id, (¬ ∃ a ∈ roots, l.graph.contains a = true ∧ l.graph.Below a id) →
      (l.graph.retain roots).2.Refuses id ∧
        (l.graph.Known id → ∀ later, ((l.call (.retain roots)).replay later).graph.Refuses id)) ∧
    (l.graph.retain roots).2.retain roots = (0, (l.graph.retain roots).2) := by
  have hg : l.graph.Sound := hl.sound.graph
  have hretained := hg.retained roots
  have hcall : Evolves l (l.call (.retain roots)) := hl.sound.evolves_call _
  refine ⟨hretained, ?_, hg.retain_retain roots⟩
  intro id hid
  have hdead : (l.graph.retain roots).2.contains id = false :=
    Bool.eq_false_iff.2 (mt (hretained.live id).1 hid)
  refine ⟨Graph.refuses_of_not_contains hdead, fun hknown later => ?_⟩
  have hlater := hcall.sound.evolves_replay later
  exact hlater.ages.refuses (hcall.ages.known id hknown) hdead

/-- A train with two cars that hold each other, and a depot that holds the train. -/
def turntable : Lexicon :=
  empty.replay [.create "train" none, .create "car" none, .create "car" none, .create "depot" none,
    .append ⟨0, 1⟩ ⟨1, 1⟩ 1, .append ⟨1, 1⟩ ⟨2, 1⟩ 0, .append ⟨2, 1⟩ ⟨1, 1⟩ 0, .append ⟨3, 1⟩ ⟨0, 1⟩ 0]

/-- Of the roots one is stale, one comes twice and one is below another; the depot goes for ever. -/
theorem retain_keeps_reachable_turntable :
    turntable.Reachable ∧
    (turntable.graph.retain [⟨0, 1⟩, ⟨7, 1⟩, ⟨1, 1⟩, ⟨0, 1⟩]).1 = 1 ∧
    (turntable.graph.retain [⟨0, 1⟩, ⟨7, 1⟩, ⟨1, 1⟩, ⟨0, 1⟩]).2.contains ⟨2, 1⟩ = true ∧
    (∀ later, ((turntable.call (.retain [⟨0, 1⟩, ⟨7, 1⟩, ⟨1, 1⟩, ⟨0, 1⟩])).replay later).graph.Refuses ⟨3, 1⟩) ∧
    (turntable.graph.retain [⟨0, 1⟩, ⟨7, 1⟩, ⟨1, 1⟩, ⟨0, 1⟩]).2.retain [⟨0, 1⟩, ⟨7, 1⟩, ⟨1, 1⟩, ⟨0, 1⟩] =
      (0, (turntable.graph.retain [⟨0, 1⟩, ⟨7, 1⟩, ⟨1, 1⟩, ⟨0, 1⟩]).2) := by
  have hreach : turntable.Reachable := ⟨_, rfl⟩
  obtain ⟨hretained, hother, hagain⟩ :=
    retain_keeps_reachable hreach [⟨0, 1⟩, ⟨7, 1⟩, ⟨1, 1⟩, ⟨0, 1⟩]
  have hcar : turntable.graph.Below ⟨0, 1⟩ ⟨1, 1⟩ := .single ⟨1, _, rfl, by decide⟩
  have hcars : turntable.graph.Below ⟨0, 1⟩ ⟨2, 1⟩ := hcar.tail ⟨0, _, rfl, by decide⟩
  have hcount : (turntable.graph.retain [⟨0, 1⟩, ⟨7, 1⟩, ⟨1, 1⟩, ⟨0, 1⟩]).1 = 1 := by cbv
  refine ⟨hreach, hcount, (hretained.live _).2 ⟨⟨0, 1⟩, by decide, by decide, hcars⟩, ?_, hagain⟩
  refine (hother ⟨3, 1⟩ ?_).2 (.of_contains (by decide))
  rintro ⟨a, ha, -, hbelow⟩
  -- nothing holds the depot, and it is no root
  rcases Relation.ReflTransGen.cases_tail hbelow with rfl | ⟨p, -, i, hold⟩
  · exact absurd ha (by decide)
  · obtain ⟨m, hm, hlink⟩ := (hreach.sound.graph.links.holds_iff _ _ _).1 hold
    cases hm
    exact List.not_mem_nil hlink

end Lexicon

end MeaningGraph
