/-
Arrangements: the ways to pick some items of a list, one after the other, each place at most once.

They come in lexicographic order of the places picked.
-/
namespace MeaningGraph

/-- The ways to pick one item: the item, and the items that are left. -/
def picks {α : Type} : List α → List (α × List α)
  | [] => []
  | a :: as => (a, as) :: (picks as).map fun (b, rest) => (b, a :: rest)

/-- The ways to pick `n` items in order. -/
def arrangements {α : Type} (as : List α) : Nat → List (List α)
  | 0 => [[]]
  | n + 1 => (picks as).flatMap fun (a, rest) => (arrangements rest n).map (a :: ·)

/-- The ways to pick between one and `n` items in order, the longest first. -/
def arrangementsUpTo {α : Type} (as : List α) (n : Nat) : List (List α) :=
  (List.range (min n as.length)).reverse.flatMap fun k => arrangements as (k + 1)

end MeaningGraph
