/-
# What survives clearing

An anchor is a live machine that a path joins to a definition outside the working set, along links in either
direction and never into the working set.  Clearing keeps what is below the anchors:

    definition ── relation ── B          anchors, by links in either direction
                              │
                              ▼
                         w ──▶ x         kept, as it is below `B`; `w` may be active
    token ──▶ definition                 released: it is active, and what it holds no longer names it

The downward sweep asks nothing of the working set, so an active machine survives below an anchor.  A second
clearing searches around an empty working set.  It finds the old anchors among its own, since every machine on
the paths to them was kept with its links, and so everything live is below an anchor: the second clearing
changes nothing.
-/
import MeaningGraph.Proofs.Graph.Connected
import MeaningGraph.Proofs.Lexicon.Clear

namespace MeaningGraph.Lexicon

variable {l l' : Lexicon} {id a : MachineId}

/-- The live machine is joined to a definition outside the working set by a path of links, in either
direction, that never enters the working set. -/
def Anchor (l : Lexicon) (id : MachineId) : Prop :=
  l.graph.contains id = true ∧
    ∃ a ∈ l.statics.values, a ∉ l.order ∧ l.graph.PathAround l.order a id

theorem mem_anchored_iff : id ∈ l.anchored ↔ l.Anchor id :=
  Graph.mem_connected_iff

theorem Sound.mem_background_iff (h : l.Sound) :
    id ∈ l.background ↔ ∃ a, l.Anchor a ∧ l.graph.Below a id := by
  rw [background, Graph.mem_descendants_roots_iff]
  simp only [mem_anchored_iff]
  constructor
  · rintro ⟨-, a, ha, hbelow⟩
    exact ⟨a, ha, hbelow⟩
  · rintro ⟨a, ha, hbelow⟩
    exact ⟨h.graph.contains_of_below ha.1 hbelow, a, ha, hbelow⟩

/-- `l'` is what clearing makes of `l`: the working set is empty, the machines below the anchors are as they
were apart from the parents that went, and every other handle is stale. -/
structure Cleared (l l' : Lexicon) : Prop where
  active : l'.active = {}
  order : l'.order = []
  statics : l'.statics = l.statics
  live : ∀ id, l'.graph.contains id = true ↔ ∃ a, l.Anchor a ∧ l.graph.Below a id
  kept : ∀ id, (∃ a, l.Anchor a ∧ l.graph.Below a id) → ∃ m, l.graph.find? id = some m ∧
    l'.graph.find? id =
      some { m with parents := m.parents.filter fun link => l'.graph.contains link.parent }
  stale : ∀ id, (¬∃ a, l.Anchor a ∧ l.graph.Below a id) → l'.graph.get id = .error (.stale id)

theorem decide_mem_background : decide (id ∈ l.background) = l.clearActive.graph.contains id := by
  by_cases h : id ∈ l.background
  · rw [decide_eq_true h, contains_clearActive.2 h]
  · rw [decide_eq_false h, Bool.eq_false_iff.2 (mt contains_clearActive.1 h)]

theorem Sound.cleared (h : l.Sound) : Cleared l l.clearActive where
  active := rfl
  order := rfl
  statics := rfl
  live _ := contains_clearActive.trans h.mem_background_iff
  kept id hid := by
    obtain ⟨m, hm, hkept⟩ := find?_clearActive_of_mem (h.mem_background_iff.2 hid)
    simp only [decide_mem_background] at hkept
    exact ⟨m, hm, hkept⟩
  stale id hid := by
    refine Graph.get_of_not_contains (Bool.eq_false_iff.2 fun hlive => hid ?_)
    exact h.mem_background_iff.1 (contains_clearActive.1 hlive)

theorem Sound.confined_clearActive (h : l.Sound) : Confined l.clearActive l.clearActive where
  background := h.evolves_clearActive.sound
  sound := h.evolves_clearActive.sound
  statics := rfl
  frame _ _ hm := hm
  dead _ _ hdead := hdead
  apart _ hid := (List.not_mem_nil hid).elim

/-- All of a cleared lexicon is below its anchors, so releasing the rest of it releases nothing. -/
theorem Sound.retain_clearActive (h : l.Sound) :
    l.clearActive.graph.retain l.clearActive.anchored = (0, l.clearActive.graph) := by
  refine h.evolves_clearActive.sound.graph.retain_eq_self fun id hlive => ?_
  exact h.confined_clearActive.mem_background_iff.2 (contains_clearActive.1 hlive)

theorem Sound.clearActive_clearActive (h : l.Sound) : l.clearActive.clearActive = l.clearActive :=
  congrArg (fun released => { l.clearActive with graph := released.2 }) h.retain_clearActive

/-- Clearing a lexicon that can be reached empties the working set and keeps exactly what is below the anchors;
clearing it again frees no machine and leaves the lexicon as it is. -/
theorem clearActive_keeps_background (h : l.Reachable) :
    Cleared l l.clearActive ∧
      (l.clearActive.graph.retain
        (l.clearActive.graph.connected l.clearActive.statics.values l.clearActive.order)).1 = 0 ∧
      l.clearActive.clearActive = l.clearActive :=
  ⟨h.sound.cleared, congrArg Prod.fst h.sound.retain_clearActive, h.sound.clearActive_clearActive⟩

/-- A cat is an animal, by a relation machine that is no definition; the animal has an active machine below it,
and another active machine holds the cat. -/
def menagerie : List Call :=
  [.create "cat" none, .create "animal" none, .create "IS_A" none, .create "alive" none, .create "cat" none,
    .append ⟨2, 1⟩ ⟨0, 1⟩ 1, .append ⟨2, 1⟩ ⟨1, 1⟩ 2, .append ⟨1, 1⟩ ⟨3, 1⟩ 1, .append ⟨4, 1⟩ ⟨0, 1⟩ 0,
    .addStatic [⟨0, 1⟩], .addActive [⟨3, 1⟩, ⟨4, 1⟩]]

/-- The relation stays, and so does the active machine below the animal; the one that holds the cat goes. -/
theorem clearActive_keeps_background_menagerie :
    (empty.replay menagerie).Reachable ∧
    (empty.replay menagerie).clearActive.graph.contains ⟨2, 1⟩ = true ∧
    (empty.replay menagerie).clearActive.graph.contains ⟨3, 1⟩ = true ∧
    (empty.replay menagerie).clearActive.graph.contains ⟨4, 1⟩ = false ∧
    (empty.replay menagerie).clearActive.clearActive = (empty.replay menagerie).clearActive := by
  have hreach : (empty.replay menagerie).Reachable := ⟨menagerie, rfl⟩
  obtain ⟨hcleared, -, htwice⟩ := clearActive_keeps_background hreach
  have hrelation : (empty.replay menagerie).graph.PathAround [⟨3, 1⟩, ⟨4, 1⟩] ⟨0, 1⟩ ⟨2, 1⟩ :=
    .single ⟨⟨1, .inr ⟨_, rfl, by decide⟩⟩, by decide⟩
  have hanimal : (empty.replay menagerie).graph.PathAround [⟨3, 1⟩, ⟨4, 1⟩] ⟨0, 1⟩ ⟨1, 1⟩ :=
    hrelation.tail ⟨⟨2, .inl ⟨_, rfl, by decide⟩⟩, by decide⟩
  refine ⟨hreach, (hcleared.live _).2 ?_, (hcleared.live _).2 ?_,
    Bool.eq_false_iff.2 fun hlive => ?_, htwice⟩
  · exact ⟨⟨2, 1⟩, ⟨by decide, ⟨0, 1⟩, by decide, by decide, hrelation⟩, .refl⟩
  · exact ⟨⟨1, 1⟩, ⟨by decide, ⟨0, 1⟩, by decide, by decide, hanimal⟩,
      .single ⟨1, _, rfl, by decide⟩⟩
  · obtain ⟨a, ha, hbelow⟩ := (hcleared.live _).1 hlive
    -- nothing holds the machine, and it is active, so it is no anchor itself
    rcases hbelow.cases_tail with rfl | ⟨p, -, i, hold⟩
    · exact (fresh_of_mem_anchored (mem_anchored_iff.2 ha)).2 (by decide)
    · obtain ⟨m, hm, hlink⟩ := (hreach.sound.graph.links.holds_iff _ _ _).1 hold
      cases hm
      exact List.not_mem_nil hlink

end MeaningGraph.Lexicon
