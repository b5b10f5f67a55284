/-
# What clearing keeps

The background of a lexicon is what lies below the machines joined to a definition without passing through
the working set; clearing keeps it and releases the rest.  A lexicon that works beside a background `base`
with a working set apart from it has that background again, whatever machines it made and linked among
themselves:

    definition ── B ── B ── B          the same machines and links as in `base`
                            ╳          no link
       active ── new ── new            released

so clearing it leads back to `base`, machine by machine.
-/
import MeaningGraph.Proofs.Twin.Graph

namespace MeaningGraph

namespace Lexicon

variable {l l₀ base : Lexicon} {id a b : MachineId} {m : Machine}

/-- The machines from which clearing starts: those joined to a definition without passing through the
working set. -/
def anchored (l : Lexicon) : List MachineId :=
  l.graph.connected l.statics.values l.order

/-- The machines that clearing keeps. -/
def background (l : Lexicon) : List MachineId :=
  l.graph.descendants l.anchored

theorem contains_clearActive :
    l.clearActive.graph.contains id = true ↔ id ∈ l.background :=
  Graph.contains_retain l.graph l.anchored id

theorem find?_clearActive (l : Lexicon) (id : MachineId) :
    l.clearActive.graph.find? id =
      if id ∈ l.background then
        (l.graph.find? id).map (·.keepParents fun link => link.parent ∈ l.background)
      else none :=
  Graph.find?_retain l.graph l.anchored id

theorem mem_neighbours (h : l.graph.find? a = some m) :
    b ∈ l.graph.neighbours a ↔ b ∈ m.links ∨ ∃ link ∈ m.parents, link.parent = b := by
  simp [Graph.neighbours, h, Machine.parentIds]

theorem mem_linksOf (h : l.graph.find? a = some m) : b ∈ l.graph.linksOf a ↔ b ∈ m.links := by
  simp [Graph.linksOf, h]

theorem fresh_of_mem_anchored (h : a ∈ l.anchored) : l.graph.contains a = true ∧ a ∉ l.order := by
  obtain ⟨hlive, hfresh⟩ := List.mem_filter.1 (Search.preorder_subset h)
  exact ⟨Graph.mem_handles_iff.1 hlive, of_decide_eq_true hfresh⟩

theorem mem_background_of_mem_anchored (h : a ∈ l.anchored) : a ∈ l.background :=
  Search.mem_preorder_of_pending h (Graph.mem_handles_iff.2 (fresh_of_mem_anchored h).1)

/-- A machine that clearing keeps has the children it had, and the parents it had that are kept. -/
theorem find?_clearActive_of_mem (ha : a ∈ l.background) :
    ∃ m, l.graph.find? a = some m ∧
      l.clearActive.graph.find? a = some (m.keepParents fun link => link.parent ∈ l.background) := by
  obtain ⟨m, hm⟩ :=
    Graph.contains_iff.1 (Graph.mem_handles_iff.1 (Graph.mem_handles_of_mem_descendants ha))
  refine ⟨m, hm, ?_⟩
  rw [find?_clearActive, if_pos ha, hm]
  rfl

namespace Confined

theorem contains_neighbour (h : Confined base l) (ha : base.graph.contains a = true)
    (hb : b ∈ l.graph.neighbours a) : base.graph.contains b = true := by
  obtain ⟨m, hm⟩ := Graph.contains_iff.1 ha
  rcases (mem_neighbours (h.frame a m hm)).1 hb with hb | ⟨link, hlink, rfl⟩
  · obtain ⟨p, hp⟩ := Machine.mem_links_iff.1 hb
    exact h.background.graph.contains_child ⟨m, hm, hp⟩
  · exact h.background.graph.contains_parent ⟨m, hm, hlink⟩

theorem contains_linked (h : Confined base l) (ha : base.graph.contains a = true)
    (hb : b ∈ l.graph.linksOf a) : base.graph.contains b = true := by
  obtain ⟨m, hm⟩ := Graph.contains_iff.1 ha
  have hm' := h.frame a m hm
  exact h.contains_neighbour ha ((mem_neighbours hm').2 (.inl ((mem_linksOf hm').1 hb)))

theorem contains_of_mem_background (h : Confined base l) (hid : id ∈ l.background) :
    base.graph.contains id = true := by
  have hanchored : ∀ a ∈ l.anchored, base.graph.contains a = true := by
    refine Search.forall_mem_preorder (fun a ha hf => ?_) fun a _ ha b hab => ?_
    · -- a definition that is live now was live in the background
      by_contra hdead
      have hlive := Graph.mem_handles_iff.1 (List.mem_of_mem_filter hf)
      rw [h.dead a (h.statics ▸ ha) (Bool.eq_false_iff.2 hdead)] at hlive
      cases hlive
    · exact h.contains_neighbour ha hab.1
  exact Search.forall_mem_preorder (fun a ha _ => hanchored a ha)
    (fun a _ ha b hab => h.contains_linked ha hab.1) id hid

theorem fresh_of_mem_background (h : Confined l₀.clearActive l) (ha : a ∈ l₀.background) :
    a ∈ l.graph.handles.filter fun id => id ∉ l.order := by
  have hlive := contains_clearActive.2 ha
  refine List.mem_filter.2 ⟨Graph.mem_handles_iff.2 (h.contains_of_base hlive), decide_eq_true ?_⟩
  intro hmem
  rw [h.apart a hmem] at hlive
  cases hlive

theorem mem_anchored (h : Confined l₀.clearActive l) (ha : a ∈ l₀.anchored) : a ∈ l.anchored := by
  refine Search.forall_mem_preorder (P := fun a => a ∈ l.anchored) (fun a ha hf => ?_)
    (fun a ha hanchored b hab => ?_) a ha
  · have hmem := mem_background_of_mem_anchored (Search.mem_preorder_of_pending ha hf)
    have hstatic : a ∈ l.statics.values := h.statics ▸ ha
    exact Search.mem_preorder_of_pending hstatic (h.fresh_of_mem_background hmem)
  · -- `a` and `b` are both kept, and so is the link between them
    have hb := mem_background_of_mem_anchored (Search.mem_preorder_of_follows ha hab)
    obtain ⟨m, hm, hkept⟩ := find?_clearActive_of_mem (mem_background_of_mem_anchored ha)
    refine Search.mem_preorder_of_follows hanchored ⟨?_, h.fresh_of_mem_background hb⟩
    rw [mem_neighbours (h.frame a _ hkept)]
    rcases (mem_neighbours hm).1 hab.1 with hlink | ⟨link, hlink, rfl⟩
    · exact .inl hlink
    · exact .inr ⟨link, Machine.mem_parents_keepParents.2 ⟨hlink, decide_eq_true hb⟩, rfl⟩

theorem mem_background_iff (h : Confined l₀.clearActive l) :
    id ∈ l.background ↔ id ∈ l₀.background := by
  refine ⟨fun hid => contains_clearActive.1 (h.contains_of_mem_background hid), ?_⟩
  intro hid
  refine Search.forall_mem_preorder (P := fun a => a ∈ l.background)
    (fun a ha _ => mem_background_of_mem_anchored (h.mem_anchored ha)) (fun a ha hmem b hab => ?_)
    id hid
  have hb : b ∈ l₀.background := Search.mem_preorder_of_follows ha hab
  obtain ⟨m, hm, hkept⟩ := find?_clearActive_of_mem ha
  refine Search.mem_preorder_of_follows hmem ⟨?_, ?_⟩
  · rw [mem_linksOf (h.frame a _ hkept)]
    exact (mem_linksOf hm).1 hab.1
  · exact Graph.mem_handles_iff.2 (h.contains_of_base (contains_clearActive.2 hb))

/-- Clearing leads back to the background, machine by machine. -/
theorem find?_clearActive (h : Confined l₀.clearActive l) (id : MachineId) :
    l.clearActive.graph.find? id = l₀.clearActive.graph.find? id := by
  rw [Lexicon.find?_clearActive l]
  by_cases hid : id ∈ l₀.background
  · obtain ⟨m, hm⟩ := Graph.contains_iff.1 (contains_clearActive.2 hid)
    rw [if_pos ((h.mem_background_iff).2 hid), h.frame id m hm, hm]
    refine congrArg some (Machine.keepParents_eq_self fun link hlink => decide_eq_true ?_)
    have hparent := h.background.graph.contains_parent ⟨m, hm, hlink⟩
    exact (h.mem_background_iff).2 (contains_clearActive.1 hparent)
  · rw [if_neg (mt (h.mem_background_iff).1 hid)]
    refine (Graph.find?_eq_none_of_not_contains (Bool.eq_false_iff.2 ?_)).symm
    exact mt contains_clearActive.1 hid

end Confined

end Lexicon

end MeaningGraph
