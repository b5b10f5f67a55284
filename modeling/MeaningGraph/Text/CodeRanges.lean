/-
Sets of characters given by ranges of code points, the form in which character properties are
tabulated.  `contains` is a plain scan, so a table can be read by `decide` and by `simp` alike, and the
order of the ranges does not matter.
-/
namespace MeaningGraph.Text

/-- Closed ranges of code points. -/
abbrev CodeRanges := List (Nat × Nat)

/-- The ranges of the single code points `lo`, `lo + 2`, … up to `hi`, for each pair given. -/
def everySecond (runs : CodeRanges) : CodeRanges :=
  runs.flatMap fun r => (List.range ((r.2 - r.1) / 2 + 1)).map fun i => (r.1 + 2 * i, r.1 + 2 * i)

namespace CodeRanges

def containsCode (ranges : CodeRanges) (n : Nat) : Bool :=
  ranges.any fun r => r.1 ≤ n && n ≤ r.2

def contains (ranges : CodeRanges) (c : Char) : Bool :=
  ranges.containsCode c.toNat

/-- The parts of a range outside another. -/
def outside (r t : Nat × Nat) : CodeRanges :=
  if t.1 ≤ r.2 && r.1 ≤ t.2 then
    (if r.1 < t.1 then [(r.1, t.1 - 1)] else []) ++ if t.2 < r.2 then [(t.2 + 1, r.2)] else []
  else [r]

/-- The code points of the first ranges that the second do not hold. -/
def without (ranges : CodeRanges) : CodeRanges → CodeRanges
  | [] => ranges
  | t :: rest => without (ranges.flatMap fun r => outside r t) rest

end CodeRanges

end MeaningGraph.Text
