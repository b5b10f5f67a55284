/-
# A copy reads like its original

What a walk or an outline shows of a machine depends on the names and the children of what is below it, and on
which of these machines are the same; it does not depend on handles, on back-links or on other machines.
`Mirrors g g' root f` says that this much is alike: `f` maps what is below the root in `g` injectively to machines of
`g'` with the same names and the images of the same children.

    walk       the images of what the walk in `g` finds, in the same order
    outline    the same text

Walk and outline hand a list of visited machines along.  The lists of the two runs stay images of each other, and as
`f` is injective a machine was visited in the one run when its image was in the other.

A copy mirrors its original, and the original mirrors itself from before the copy to after it.
-/
import MeaningGraph.Graph.Outline
import MeaningGraph.Proofs.Graph.Preorder

namespace MeaningGraph

/-- The machine has the same name and the images of the same children. -/
structure Machine.ReadsLike (f : MachineId → MachineId) (old new : Machine) : Prop where
  name : new.name = old.name
  parts : new.parts = old.parts.map (·.map f)

namespace Graph

variable {g g' : Graph} {root m : MachineId} {f : MachineId → MachineId} {seen seen' : List MachineId}
  {old new : Machine} {depth : Nat}

/-- In `g'` the images of the machines below the root have their names and the images of their children. -/
structure Mirrors (g g' : Graph) (root : MachineId) (f : MachineId → MachineId) : Prop where
  injective : Set.InjOn f {m | g.Below root m}
  image : ∀ m, g.Below root m →
    ∃ old new, g.find? m = some old ∧ g'.find? (f m) = some new ∧ Machine.ReadsLike f old new

/-- A copy mirrors its original. -/
theorem IsCopy.mirrors (h : IsCopy g g' root f) : Mirrors g g' root f where
  injective := h.injective
  image m hm := by
    obtain ⟨old, new, hold, hnew, himage⟩ := h.image m hm
    exact ⟨old, new, hold, hnew, himage.name, himage.parts⟩

theorem IsCopy.mirrors_id (h : IsCopy g g' root f) : Mirrors g g' root id where
  injective := Set.injOn_id _
  image m hm := by
    obtain ⟨old, -, hold, -⟩ := h.image m hm
    refine ⟨old, old, hold, ?_, rfl, by simp⟩
    rw [id, h.kept m (contains_of_find? hold), hold]

/-! ## The walk -/

theorem Mirrors.contains_image (h : Mirrors g g' root f) (hm : g.Below root m) : g'.contains (f m) = true := by
  obtain ⟨old, new, -, hnew, -⟩ := h.image m hm
  exact contains_of_find? hnew

theorem Mirrors.contains (h : Mirrors g g' root f) (hm : g.Below root m) : g.contains m = true := by
  obtain ⟨old, new, hold, -⟩ := h.image m hm
  exact contains_of_find? hold

theorem Mirrors.linksOf (h : Mirrors g g' root f) (hm : g.Below root m) :
    g'.linksOf (f m) = (g.linksOf m).map f := by
  obtain ⟨old, new, hold, hnew, himage⟩ := h.image m hm
  simp only [Graph.linksOf, hold, hnew, Machine.links, himage.parts, List.map_flatten]

theorem below_of_mem_linksOf {c : MachineId} (hm : g.Below root m) (hc : c ∈ g.linksOf m) :
    g.Below root c := by
  obtain ⟨i, hold⟩ := mem_linksOf_iff.1 hc
  exact hm.child hold

theorem Mirrors.descendants (h : Mirrors g g' root f) :
    g'.descendants [f root] = (g.descendants [root]).map f := by
  unfold Graph.descendants
  rw [← List.map_singleton]
  refine Search.preorder_map (P := g.Below root) nodup_handles nodup_handles ?_ ?_ ?_ ?_ ?_
  · intro m hm
    rw [List.mem_singleton.1 hm]
    exact .refl
  · intro m hm c hc
    exact below_of_mem_linksOf hm hc
  · intro m m' hm hm' heq
    exact h.injective hm hm' heq
  · intro m hm
    exact h.linksOf hm
  · intro m hm
    rw [mem_handles_iff, mem_handles_iff, h.contains hm, h.contains_image hm]

theorem Mirrors.tree (h : Mirrors g g' root f) :
    g'.tree (f root) = (g.tree root).map (·.map f) := by
  rw [tree_of_contains (h.contains_image .refl), tree_of_contains (h.contains .refl), h.descendants]
  rfl

/-! ## The outline -/

/-- Two runs along a list that stay related at every item give the same answers. -/
theorem threaded_map {α β σ : Type} {α' σ' : Type} {run : σ → α → β × σ} {run' : σ' → α' → β × σ'}
    {R : σ → σ' → Prop} {φ : α → α'} {as : List α} {s : σ} {s' : σ'} (hs : R s s')
    (hstep : ∀ s s', R s s' → ∀ a ∈ as, (run' s' (φ a)).1 = (run s a).1 ∧ R (run s a).2 (run' s' (φ a)).2) :
    (threaded run' s' (as.map φ)).1 = (threaded run s as).1 ∧
      R (threaded run s as).2 (threaded run' s' (as.map φ)).2 := by
  induction as generalizing s s' with
  | nil => exact ⟨rfl, hs⟩
  | cons a as ih =>
    obtain ⟨hhead, hs₁⟩ := hstep s s' hs a List.mem_cons_self
    obtain ⟨htail, hs₂⟩ := ih hs₁ fun s s' hss b hb => hstep s s' hss b (List.mem_cons_of_mem _ hb)
    refine ⟨?_, hs₂⟩
    simp only [List.map_cons, threaded, hhead, htail]

/-- The machines written in the two runs: the ones are the images of the others, which are below the root. -/
structure SeenAlike (g : Graph) (root : MachineId) (f : MachineId → MachineId) (seen seen' : List MachineId) :
    Prop where
  images : seen' = seen.map f
  below : ∀ m ∈ seen, g.Below root m

theorem SeenAlike.cons (h : SeenAlike g root f seen seen') (hm : g.Below root m) :
    SeenAlike g root f (m :: seen) (f m :: seen') where
  images := by rw [h.images, List.map_cons]
  below := by
    intro m' hm'
    rcases List.mem_cons.1 hm' with rfl | hm'
    · exact hm
    · exact h.below m' hm'

theorem Mirrors.mem_seen_iff (h : Mirrors g g' root f) (hseen : SeenAlike g root f seen seen')
    (hm : g.Below root m) : f m ∈ seen' ↔ m ∈ seen := by
  rw [hseen.images, List.mem_map]
  constructor
  · rintro ⟨m', hm', heq⟩
    rwa [← h.injective (hseen.below m' hm') hm heq]
  · intro hmem
    exact ⟨m, hmem, rfl⟩

/-- The partition with its number and the images of its members. -/
def imagePart (f : MachineId → MachineId) (entry : Nat × List MachineId) : Nat × List MachineId :=
  (entry.1, entry.2.map f)

theorem filledParts_map (h : new.parts = old.parts.map (·.map f)) :
    filledParts new = (filledParts old).map (imagePart f) := by
  simp [filledParts, h, List.zipIdx_map, List.filter_map, Function.comp_def, imagePart]

def outlinePart (g : Graph) (depth : Nat) (seen : List MachineId) (entry : Nat × List MachineId) :
    String × List MachineId :=
  let below := threaded (g.outlineFrom depth) seen entry.2
  (toString entry.1 ++ ": " ++ ", ".intercalate below.1, below.2)

theorem outlineFrom_of_mem (hm : g.find? m = some old) (hseen : m ∈ seen) :
    g.outlineFrom depth seen m = ("@" ++ old.name, seen) := by
  cases depth <;> simp [outlineFrom, hm, hseen]

theorem outlineFrom_of_leaf (hm : g.find? m = some old) (hnew : m ∉ seen)
    (hleaf : depth = 0 ∨ filledParts old = []) : g.outlineFrom depth seen m = (old.name, m :: seen) := by
  cases depth with
  | zero => simp [outlineFrom, hm, hnew]
  | succ depth => simp [outlineFrom, hm, hnew, hleaf.resolve_left (Nat.succ_ne_zero depth)]

theorem outlineFrom_succ (hm : g.find? m = some old) (hnew : m ∉ seen) (hparts : filledParts old ≠ []) :
    g.outlineFrom (depth + 1) seen m =
      (old.name ++ "[" ++ "; ".intercalate (threaded (g.outlinePart depth) (m :: seen) (filledParts old)).1 ++ "]",
        (threaded (g.outlinePart depth) (m :: seen) (filledParts old)).2) := by
  rw [outlineFrom]
  simp only [hm, if_neg hnew]
  rfl

theorem below_of_mem_filledParts {entry : Nat × List MachineId} (hm : g.Below root m)
    (hold : g.find? m = some old) (hentry : entry ∈ filledParts old) : ∀ c ∈ entry.2, g.Below root c := by
  intro c hc
  obtain ⟨⟨part, i⟩, hpart, rfl⟩ := List.mem_map.1 (List.mem_of_mem_filter hentry)
  have hi : old.parts[i]? = some part := List.mk_mem_zipIdx_iff_getElem?.1 hpart
  exact hm.child ⟨old, hold, Machine.mem_part_iff.2 ⟨part, hi, hc⟩⟩

/-- Two steps of writing have the same text, and the machines written stay images of each other. -/
def WrittenAlike (g : Graph) (root : MachineId) (f : MachineId → MachineId)
    (written written' : String × List MachineId) : Prop :=
  written'.1 = written.1 ∧ SeenAlike g root f written.2 written'.2

theorem Mirrors.writtenAlike_of_mem (h : Mirrors g g' root f) (hm : g.Below root m)
    (hseen : SeenAlike g root f seen seen') (hmem : m ∈ seen) :
    WrittenAlike g root f (g.outlineFrom depth seen m) (g'.outlineFrom depth seen' (f m)) := by
  obtain ⟨old, new, hold, hnew, himage⟩ := h.image m hm
  rw [outlineFrom_of_mem hold hmem, outlineFrom_of_mem hnew ((h.mem_seen_iff hseen hm).2 hmem), himage.name]
  exact ⟨rfl, hseen⟩

theorem Mirrors.writtenAlike_of_leaf (h : Mirrors g g' root f) (hm : g.Below root m)
    (hseen : SeenAlike g root f seen seen') (hmem : m ∉ seen) (hold : g.find? m = some old)
    (hleaf : depth = 0 ∨ filledParts old = []) :
    WrittenAlike g root f (g.outlineFrom depth seen m) (g'.outlineFrom depth seen' (f m)) := by
  obtain ⟨old', new, hold', hnew, himage⟩ := h.image m hm
  obtain rfl : old' = old := Option.some.inj (hold'.symm.trans hold)
  have hleaf' : depth = 0 ∨ filledParts new = [] := by
    rw [filledParts_map himage.parts, List.map_eq_nil_iff]
    exact hleaf
  rw [outlineFrom_of_leaf hold hmem hleaf,
    outlineFrom_of_leaf hnew (mt (h.mem_seen_iff hseen hm).1 hmem) hleaf', himage.name]
  exact ⟨rfl, hseen.cons hm⟩

theorem Mirrors.outlineFrom (h : Mirrors g g' root f) (depth : Nat) (hm : g.Below root m)
    (hseen : SeenAlike g root f seen seen') :
    WrittenAlike g root f (g.outlineFrom depth seen m) (g'.outlineFrom depth seen' (f m)) := by
  induction depth generalizing seen seen' m with
  | zero =>
    obtain ⟨old, -, hold, -⟩ := h.image m hm
    by_cases hmem : m ∈ seen
    · exact h.writtenAlike_of_mem hm hseen hmem
    · exact h.writtenAlike_of_leaf hm hseen hmem hold (.inl rfl)
  | succ depth ih =>
    obtain ⟨old, new, hold, hnew, himage⟩ := h.image m hm
    by_cases hmem : m ∈ seen
    · exact h.writtenAlike_of_mem hm hseen hmem
    by_cases hleaf : filledParts old = []
    · exact h.writtenAlike_of_leaf hm hseen hmem hold (.inr hleaf)
    -- the partitions are written one after the other, and so are the machines of each
    have hpart : ∀ s s', SeenAlike g root f s s' → ∀ entry ∈ filledParts old,
        WrittenAlike g root f (g.outlinePart depth s entry) (g'.outlinePart depth s' (imagePart f entry)) := by
      intro s s' hs entry hentry
      have hchild : ∀ s s', SeenAlike g root f s s' → ∀ c ∈ entry.2,
          WrittenAlike g root f (g.outlineFrom depth s c) (g'.outlineFrom depth s' (f c)) :=
        fun s s' hs c hc => ih (below_of_mem_filledParts hm hold hentry c hc) hs
      have hbelow := threaded_map hs hchild
      refine ⟨?_, hbelow.2⟩
      simp only [outlinePart, imagePart, hbelow.1]
    have hbelow := threaded_map (hseen.cons hm) hpart
    have hparts := filledParts_map himage.parts
    have hleaf' : filledParts new ≠ [] := by rwa [hparts, Ne, List.map_eq_nil_iff]
    rw [outlineFrom_succ hold hmem hleaf, outlineFrom_succ hnew (mt (h.mem_seen_iff hseen hm).1 hmem) hleaf',
      hparts, himage.name, hbelow.1]
    exact ⟨rfl, hbelow.2⟩

theorem Mirrors.outline (h : Mirrors g g' root f) (depth : Nat) :
    g'.outline (f root) depth = g.outline root depth :=
  (h.outlineFrom depth .refl ⟨rfl, fun _ hm => (List.not_mem_nil hm).elim⟩).1

end Graph

namespace Lexicon

/-- In every graph that can be reached, the walk down from the copy of a live machine lists the copies of what the
walk down from the machine lists, position by position, and the outline of the copy is the outline of the machine at
every depth.  The machine's own walk and outline are after the copy what they were before. -/
theorem deepCopy_reads_alike {l : Lexicon} (hl : l.Reachable) {root : MachineId}
    (hroot : l.graph.contains root = true) :
    ∃ copy g' f order, l.graph.deepCopy root = .ok (copy, g') ∧ f root = copy ∧ l.graph.IsCopy g' root f ∧
      l.graph.tree root = .ok order ∧ g'.tree copy = .ok (order.map f) ∧ g'.tree root = .ok order ∧
      ∀ depth, g'.outline copy depth = l.graph.outline root depth ∧
        g'.outline root depth = l.graph.outline root depth := by
  obtain ⟨copy, g', f, hok, rfl, hcopy⟩ := hl.sound.graph.exists_isCopy hroot
  have htree := Graph.tree_of_contains hroot
  refine ⟨_, g', f, _, hok, rfl, hcopy, htree, ?_, ?_, fun depth => ⟨hcopy.mirrors.outline depth, ?_⟩⟩
  · rw [hcopy.mirrors.tree, htree]
    rfl
  · have hsame := hcopy.mirrors_id.tree
    rw [htree] at hsame
    simpa [Except.map] using hsame
  · exact hcopy.mirrors_id.outline depth

theorem deepCopy_reads_alike_junctionYard :
    junctionYard.Reachable ∧ junctionYard.graph.contains ⟨0, 1⟩ = true ∧
      ∃ copy g', junctionYard.graph.deepCopy ⟨0, 1⟩ = .ok (copy, g') ∧
        g'.outline copy 3 = "junction[0: track[2: signal[0: @junction]]; 1: @signal; 2: @junction]" ∧
        g'.outline copy 1 = "junction[0: track; 1: signal; 2: @junction]" := by
  have hreach : junctionYard.Reachable := ⟨_, rfl⟩
  have hlive : junctionYard.graph.contains ⟨0, 1⟩ = true := by decide
  obtain ⟨copy, g', -, -, hok, -, -, -, -, -, houtline⟩ := deepCopy_reads_alike hreach hlive
  refine ⟨hreach, hlive, copy, g', hok, ?_, ?_⟩
  · rw [(houtline 3).1]
    decide
  · rw [(houtline 1).1]
    decide

end Lexicon

end MeaningGraph
