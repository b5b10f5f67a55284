/-
Boolean formulas over names.
-/
namespace MeaningGraph

/-- A formula; the connectives take any number of parts. -/
inductive Formula where
  | filled (name : String)
  | not (f : Formula)
  | and (fs : List Formula)
  | or (fs : List Formula)
deriving Repr

namespace Formula

mutual

/-- The truth of a formula, given the truth of the names. -/
def eval (filled : String → Bool) : Formula → Bool
  | .filled name => filled name
  | .not f => !eval filled f
  | .and fs => evalAll filled fs
  | .or fs => evalAny filled fs

def evalAll (filled : String → Bool) : List Formula → Bool
  | [] => true
  | f :: fs => eval filled f && evalAll filled fs

def evalAny (filled : String → Bool) : List Formula → Bool
  | [] => false
  | f :: fs => eval filled f || evalAny filled fs

end

theorem evalAll_eq_all (filled : String → Bool) (fs : List Formula) :
    evalAll filled fs = fs.all (eval filled) := by
  induction fs with
  | nil => rfl
  | cons f fs ih => rw [evalAll, ih, List.all_cons]

theorem evalAny_eq_any (filled : String → Bool) (fs : List Formula) :
    evalAny filled fs = fs.any (eval filled) := by
  induction fs with
  | nil => rfl
  | cons f fs ih => rw [evalAny, ih, List.any_cons]

end Formula

end MeaningGraph
