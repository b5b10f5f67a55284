/-
# What depth-first search finds

`preorder next fresh pending` lists the nodes that can be reached from a fresh pending node by edges
into fresh nodes, and no others:

    x ∈ preorder next fresh pending  ↔  ∃ a ∈ pending, a ∈ fresh ∧ a ⟶* x

Left to right is an induction along the search, in which every path found among the nodes still fresh
is a path among the nodes fresh at the start.  Right to left needs that what is found is closed under
edges into fresh nodes; the path is then followed edge by edge.

Where there are no edges to follow, a list is gone through for what was not seen before.  What is collected
then is `seen ++ (as.filter (· ∉ seen)).eraseDups`, in whatever way the list is gone through.
-/
import Mathlib.Logic.Relation
import MeaningGraph.Search

namespace MeaningGraph.Search

variable {α : Type} [DecidableEq α] {next : α → List α} {fresh pending : List α}

/-- An edge that the search may follow: one into a fresh node. -/
def Follows (next : α → List α) (fresh : List α) (a b : α) : Prop :=
  b ∈ next a ∧ b ∈ fresh

theorem Follows.of_erase {a x y : α} (h : Follows next (fresh.erase a) x y) :
    Follows next fresh x y :=
  ⟨h.1, List.mem_of_mem_erase h.2⟩

theorem exists_path_of_mem_preorder {x : α} (h : x ∈ preorder next fresh pending) :
    ∃ a ∈ pending, a ∈ fresh ∧ Relation.ReflTransGen (Follows next fresh) a x := by
  induction fresh, pending using preorder.induct next with
  | case1 fresh => simp at h
  | case2 fresh a rest ha ih =>
    rw [preorder_cons_of_mem ha, List.mem_cons] at h
    rcases h with rfl | h
    · exact ⟨x, List.mem_cons_self, ha, .refl⟩
    · obtain ⟨b, hb, hbf, path⟩ := ih h
      have hpath : Relation.ReflTransGen (Follows next fresh) b x :=
        Relation.ReflTransGen.mono (fun _ _ => Follows.of_erase) _ _ path
      have hbf' : b ∈ fresh := List.mem_of_mem_erase hbf
      rcases List.mem_append.1 hb with hb | hb
      · exact ⟨a, List.mem_cons_self, ha, .head ⟨hb, hbf'⟩ hpath⟩
      · exact ⟨b, List.mem_cons_of_mem _ hb, hbf', hpath⟩
  | case3 fresh a rest ha ih =>
    rw [preorder_cons_of_not_mem ha] at h
    obtain ⟨b, hb, hbf, path⟩ := ih h
    exact ⟨b, List.mem_cons_of_mem _ hb, hbf, path⟩

theorem mem_preorder_of_pending {x : α} (hx : x ∈ pending) (hf : x ∈ fresh) :
    x ∈ preorder next fresh pending := by
  induction fresh, pending using preorder.induct next with
  | case1 fresh => simp at hx
  | case2 fresh a rest ha ih =>
    rw [preorder_cons_of_mem ha, List.mem_cons]
    by_cases hxa : x = a
    · exact .inl hxa
    · have hrest : x ∈ rest := (List.mem_cons.1 hx).resolve_left hxa
      exact .inr (ih (List.mem_append_right _ hrest) ((List.mem_erase_of_ne hxa).2 hf))
  | case3 fresh a rest ha ih =>
    rw [preorder_cons_of_not_mem ha]
    refine ih ((List.mem_cons.1 hx).resolve_left ?_) hf
    rintro rfl
    exact ha hf

theorem mem_preorder_of_follows {x y : α} (hx : x ∈ preorder next fresh pending)
    (hxy : Follows next fresh x y) : y ∈ preorder next fresh pending := by
  obtain ⟨hy, hf⟩ := hxy
  induction fresh, pending using preorder.induct next with
  | case1 fresh => simp at hx
  | case2 fresh a rest ha ih =>
    rw [preorder_cons_of_mem ha, List.mem_cons] at hx ⊢
    by_cases hya : y = a
    · exact .inl hya
    · have hf' : y ∈ fresh.erase a := (List.mem_erase_of_ne hya).2 hf
      rcases hx with rfl | hx
      · exact .inr (mem_preorder_of_pending (List.mem_append_left _ hy) hf')
      · exact .inr (ih hx hf')
  | case3 fresh a rest ha ih =>
    rw [preorder_cons_of_not_mem ha] at hx ⊢
    exact ih hx hf

/-- The search finds what a path joins to a fresh pending node. -/
theorem mem_preorder_iff {x : α} :
    x ∈ preorder next fresh pending ↔
      ∃ a ∈ pending, a ∈ fresh ∧ Relation.ReflTransGen (Follows next fresh) a x := by
  refine ⟨exists_path_of_mem_preorder, ?_⟩
  rintro ⟨a, ha, hf, path⟩
  induction path with
  | refl => exact mem_preorder_of_pending ha hf
  | tail _ hstep ih => exact mem_preorder_of_follows ih hstep

/-- Which nodes are found does not depend on the order of the edges, nor on the order of the pending nodes. -/
theorem mem_preorder_congr {next' : α → List α} {pending' : List α} {x : α}
    (hnext : ∀ a b, b ∈ next' a ↔ b ∈ next a) (hpending : ∀ a ∈ fresh, a ∈ pending' ↔ a ∈ pending) :
    x ∈ preorder next' fresh pending' ↔ x ∈ preorder next fresh pending := by
  have hfollows : Follows next' fresh = Follows next fresh := by
    funext a b
    rw [Follows, Follows, hnext]
  rw [mem_preorder_iff, mem_preorder_iff, hfollows]
  refine exists_congr fun a => ?_
  rw [← and_assoc, ← and_assoc]
  exact and_congr_left' (and_congr_left (hpending a))

theorem forall_mem_preorder {P : α → Prop} (hpending : ∀ a ∈ pending, a ∈ fresh → P a)
    (hstep : ∀ a ∈ preorder next fresh pending, P a → ∀ b, Follows next fresh a b → P b) :
    ∀ x ∈ preorder next fresh pending, P x := by
  intro x hx
  obtain ⟨a, ha, hf, path⟩ := exists_path_of_mem_preorder hx
  have hboth : x ∈ preorder next fresh pending ∧ P x := by
    clear hx
    induction path with
    | refl => exact ⟨mem_preorder_of_pending ha hf, hpending a ha hf⟩
    | tail _ hbc ih => exact ⟨mem_preorder_of_follows ih.1 hbc, hstep _ ih.1 ih.2 _ hbc⟩
  exact hboth.2

/-! ## One search after the other -/

theorem filter_erase (hfresh : fresh.Nodup) (a : α) (found : List α) :
    (fresh.erase a).filter (fun x => x ∉ found) = fresh.filter (fun x => x ∉ a :: found) := by
  rw [hfresh.erase_eq_filter, List.filter_filter]
  refine List.filter_congr ?_
  intro x _
  rw [Bool.eq_iff_iff]
  simp [and_comm]

/-- Pending nodes are searched one after the other, the later ones among what is still fresh. -/
theorem preorder_append (hfresh : fresh.Nodup) (later : List α) :
    preorder next fresh (pending ++ later) =
      preorder next fresh pending ++
        preorder next (fresh.filter fun x => x ∉ preorder next fresh pending) later := by
  induction fresh, pending using preorder.induct next with
  | case1 fresh =>
    rw [preorder_nil, List.filter_eq_self.2 (by simp)]
    rfl
  | case2 fresh a rest ha ih =>
    rw [List.cons_append, preorder_cons_of_mem ha, preorder_cons_of_mem ha, ← List.append_assoc,
      ih (hfresh.erase a), filter_erase hfresh]
    rfl
  | case3 fresh a rest ha ih =>
    rw [List.cons_append, preorder_cons_of_not_mem ha, preorder_cons_of_not_mem ha, ih hfresh]

theorem preorder_filter {keep : α → Bool} (hfresh : fresh.Nodup) (hkeep : ∀ a ∈ fresh, keep a = true) :
    preorder next fresh (pending.filter keep) = preorder next fresh pending := by
  induction pending generalizing fresh with
  | nil => rfl
  | cons a rest ih =>
    cases ha : keep a with
    | false =>
      have hnot : a ∉ fresh := by
        intro hmem
        rw [hkeep a hmem] at ha
        cases ha
      rw [List.filter_cons_of_neg (by simp [ha]), preorder_cons_of_not_mem hnot, ih hfresh hkeep]
    | true =>
      rw [List.filter_cons_of_pos ha, ← List.singleton_append, ← List.singleton_append (l := rest),
        preorder_append hfresh, preorder_append hfresh, ih (hfresh.filter _)]
      intro b hb
      exact hkeep b (List.mem_filter.1 hb).1

/-! ## Searches of one shape -/

/-- A search among images, where edges lead from image to image, visits the images in the order of the search
among what they are images of. -/
theorem preorder_map {β : Type} [DecidableEq β] {next' : β → List β} {fresh' : List β} {f : α → β}
    {P : α → Prop} (hfresh : fresh.Nodup) (hfresh' : fresh'.Nodup) (hpending : ∀ a ∈ pending, P a)
    (hclosed : ∀ a, P a → ∀ b ∈ next a, P b) (hinj : ∀ a b, P a → P b → f a = f b → a = b)
    (hnext : ∀ a, P a → next' (f a) = (next a).map f) (hmem : ∀ a, P a → (f a ∈ fresh' ↔ a ∈ fresh)) :
    preorder next' fresh' (pending.map f) = (preorder next fresh pending).map f := by
  induction fresh, pending using preorder.induct next generalizing fresh' with
  | case1 fresh => simp
  | case2 fresh a rest ha ih =>
    have hPa : P a := hpending a List.mem_cons_self
    rw [List.map_cons, preorder_cons_of_mem ha, preorder_cons_of_mem ((hmem a hPa).2 ha), hnext a hPa,
      ← List.map_append, List.map_cons]
    refine congrArg (f a :: ·) (ih (hfresh.erase a) (hfresh'.erase (f a)) ?_ ?_)
    · intro b hb
      rcases List.mem_append.1 hb with hb | hb
      · exact hclosed a hPa b hb
      · exact hpending b (List.mem_cons_of_mem _ hb)
    · intro b hb
      rw [hfresh'.mem_erase_iff, hfresh.mem_erase_iff, hmem b hb]
      exact and_congr_left' (not_congr ⟨hinj b a hb hPa, congrArg f⟩)
  | case3 fresh a rest ha ih =>
    have hPa : P a := hpending a List.mem_cons_self
    rw [List.map_cons, preorder_cons_of_not_mem ha, preorder_cons_of_not_mem (mt (hmem a hPa).1 ha)]
    exact ih hfresh hfresh' (fun b hb => hpending b (List.mem_cons_of_mem _ hb)) hmem

theorem preorder_congr {next' : α → List α} {fresh' : List α} {P : α → Prop}
    (hfresh : fresh.Nodup) (hfresh' : fresh'.Nodup) (hpending : ∀ a ∈ pending, P a)
    (hclosed : ∀ a, P a → ∀ b ∈ next a, P b) (hnext : ∀ a, P a → next' a = next a)
    (hmem : ∀ a, P a → (a ∈ fresh' ↔ a ∈ fresh)) :
    preorder next' fresh' pending = preorder next fresh pending := by
  have hmap := preorder_map (f := id) hfresh hfresh' hpending hclosed (fun _ _ _ _ heq => heq)
    (fun a ha => (hnext a ha).trans (List.map_id _).symm) hmem
  rwa [List.map_id, List.map_id] at hmap

/-! ## What was not seen before -/

theorem append_unseen_cons (seen : List α) (a : α) (as : List α) :
    seen ++ ((a :: as).filter (· ∉ seen)).eraseDups =
      if a ∈ seen then seen ++ (as.filter (· ∉ seen)).eraseDups
      else (seen ++ [a]) ++ (as.filter (· ∉ seen ++ [a])).eraseDups := by
  split
  · rename_i ha
    rw [List.filter_cons_of_neg (by simpa using ha)]
  · rename_i ha
    rw [List.filter_cons_of_pos (by simpa using ha), List.eraseDups_cons, List.filter_filter, List.append_assoc,
      List.singleton_append]
    refine congrArg (fun new => seen ++ a :: new.eraseDups) (List.filter_congr fun b _ => ?_)
    rw [Bool.eq_iff_iff]
    simp [and_comm]

theorem foldl_unseen (as seen : List α) :
    as.foldl (fun seen a => if a ∈ seen then seen else seen ++ [a]) seen =
      seen ++ (as.filter (· ∉ seen)).eraseDups := by
  induction as generalizing seen with
  | nil => simp
  | cons a as ih =>
    rw [List.foldl_cons, ih, append_unseen_cons]
    split <;> rfl

theorem mem_foldl_unseen (as seen : List α) (x : α) :
    x ∈ as.foldl (fun seen a => if a ∈ seen then seen else seen ++ [a]) seen ↔ x ∈ seen ∨ x ∈ as := by
  rw [foldl_unseen, List.mem_append, List.mem_eraseDups, List.mem_filter, decide_eq_true_eq]
  by_cases hx : x ∈ seen <;> simp [hx]

theorem nodup_foldl_unseen (as : List α) {seen : List α} (h : seen.Nodup) :
    (as.foldl (fun seen a => if a ∈ seen then seen else seen ++ [a]) seen).Nodup := by
  induction as generalizing seen with
  | nil => exact h
  | cons a as ih =>
    rw [List.foldl_cons]
    split
    · exact ih h
    · rename_i ha
      refine ih (List.nodup_append.2 ⟨h, List.pairwise_singleton _ a, ?_⟩)
      intro b hb c hc hbc
      obtain rfl := List.mem_singleton.1 hc
      exact ha (hbc ▸ hb)

end MeaningGraph.Search
