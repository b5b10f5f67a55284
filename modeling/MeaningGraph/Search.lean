/-
Depth-first search.

`preorder next fresh pending` visits the nodes of `pending` in order, each followed by the nodes it
leads to, and enters only nodes of `fresh`, each at most once: a node is struck from `fresh` when it
is visited.  What a node leads to becomes pending when the node is struck, and not again, so the search ends on any
graph.
-/
namespace MeaningGraph.Search

variable {α : Type} [DecidableEq α]

/-- The nodes that the search visits, in the order it visits them. -/
def preorder (next : α → List α) (fresh pending : List α) : List α :=
  match pending with
  | [] => []
  | a :: rest =>
    if _mem : a ∈ fresh then a :: preorder next (fresh.erase a) (next a ++ rest)
    else preorder next fresh rest
termination_by (fresh.flatMap next).length + fresh.length + pending.length
decreasing_by
  · have hstruck := List.perm_cons_erase _mem
    have hfresh := hstruck.length_eq
    have hnext := (hstruck.flatMap_right next).length_eq
    simp only [List.flatMap_cons, List.length_append, List.length_cons] at hfresh hnext ⊢
    omega
  · exact Nat.add_lt_add_left (Nat.lt_succ_self _) _

@[simp] theorem preorder_nil (next : α → List α) (fresh : List α) : preorder next fresh [] = [] := by
  rw [preorder]

theorem preorder_cons_of_mem {next : α → List α} {fresh rest : List α} {a : α} (h : a ∈ fresh) :
    preorder next fresh (a :: rest) = a :: preorder next (fresh.erase a) (next a ++ rest) := by
  rw [preorder, dif_pos h]

theorem preorder_cons_of_not_mem {next : α → List α} {fresh rest : List α} {a : α}
    (h : a ∉ fresh) : preorder next fresh (a :: rest) = preorder next fresh rest := by
  rw [preorder, dif_neg h]

theorem preorder_subset {next : α → List α} {fresh pending : List α} :
    preorder next fresh pending ⊆ fresh := by
  induction fresh, pending using preorder.induct next with
  | case1 fresh => simp
  | case2 fresh a rest h ih =>
    rw [preorder_cons_of_mem h]
    intro x hx
    rcases List.mem_cons.1 hx with rfl | hx
    · exact h
    · exact List.mem_of_mem_erase (ih hx)
  | case3 fresh a rest h ih =>
    rw [preorder_cons_of_not_mem h]
    exact ih

theorem nodup_preorder {next : α → List α} {fresh pending : List α} (hfresh : fresh.Nodup) :
    (preorder next fresh pending).Nodup := by
  induction fresh, pending using preorder.induct next with
  | case1 fresh => simp
  | case2 fresh a rest h ih =>
    rw [preorder_cons_of_mem h, List.nodup_cons]
    exact ⟨fun hmem => (List.Nodup.not_mem_erase hfresh) (preorder_subset hmem), ih (hfresh.erase a)⟩
  | case3 fresh a rest h ih =>
    rw [preorder_cons_of_not_mem h]
    exact ih hfresh

end MeaningGraph.Search
