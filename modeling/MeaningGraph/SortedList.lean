/-
Lists kept in strictly increasing order, the form of every finite set whose order an answer shows.
-/
namespace MeaningGraph.SortedList

variable {α : Type} [DecidableEq α]

/-- Puts `a` in its place; a list that has it already stays as it is. -/
def insert (before : α → α → Bool) (a : α) : List α → List α
  | [] => [a]
  | b :: bs =>
    if a = b then b :: bs
    else if before a b then a :: b :: bs
    else b :: insert before a bs

/-- The members of a list in increasing order, each once. -/
def ofList (before : α → α → Bool) (as : List α) : List α :=
  as.foldl (fun sorted a => insert before a sorted) []

@[simp] theorem mem_insert {before : α → α → Bool} {a x : α} {l : List α} :
    x ∈ insert before a l ↔ x = a ∨ x ∈ l := by
  induction l with
  | nil => simp [insert]
  | cons b bs ih =>
    unfold insert
    split
    · rename_i h
      subst h
      simp
    · split
      · simp
      · simp only [List.mem_cons, ih]
        constructor
        · rintro (h | h | h)
          · exact .inr (.inl h)
          · exact .inl h
          · exact .inr (.inr h)
        · rintro (h | h | h)
          · exact .inr (.inl h)
          · exact .inl h
          · exact .inr (.inr h)

private theorem mem_foldl_insert {before : α → α → Bool} {x : α} (as sorted : List α) :
    x ∈ as.foldl (fun sorted a => insert before a sorted) sorted ↔ x ∈ as ∨ x ∈ sorted := by
  induction as generalizing sorted with
  | nil => simp
  | cons a as ih =>
    rw [List.foldl_cons, ih, mem_insert, List.mem_cons]
    constructor
    · rintro (h | h | h)
      · exact .inl (.inr h)
      · exact .inl (.inl h)
      · exact .inr h
    · rintro ((h | h) | h)
      · exact .inr (.inl h)
      · exact .inl h
      · exact .inr (.inr h)

@[simp] theorem mem_ofList {before : α → α → Bool} {x : α} {as : List α} :
    x ∈ ofList before as ↔ x ∈ as := by
  simp [ofList, mem_foldl_insert]

end MeaningGraph.SortedList
