/-
Rule sets: the rules of an analysis, by kind.

Each phase of an analysis walks the rules of its kind in the order they were added; earlier rules win.
-/
import MeaningGraph.Rule.Basic

namespace MeaningGraph

/-- Rules by kind, in the order they were added. -/
structure RuleSet (ρ : Type) where
  chunk : List ρ := []
  semantic : List ρ := []
  avm : List ρ := []
deriving Repr

namespace RuleSet

variable {ρ : Type}

def empty : RuleSet ρ := {}

instance : Inhabited (RuleSet ρ) := ⟨empty⟩

/-- All rules, kind by kind. -/
def toList (s : RuleSet ρ) : List ρ :=
  s.chunk ++ s.semantic ++ s.avm

def size (s : RuleSet ρ) : Nat :=
  s.chunk.length + s.semantic.length + s.avm.length

def isEmpty (s : RuleSet ρ) : Bool :=
  s.size == 0

variable [Rule ρ]

/-- Adds a rule at the end of its kind. -/
def push (s : RuleSet ρ) (r : ρ) : RuleSet ρ :=
  match Rule.kind r with
  | .chunk => { s with chunk := s.chunk ++ [r] }
  | .semantic => { s with semantic := s.semantic ++ [r] }
  | .avm => { s with avm := s.avm ++ [r] }

def extend (s : RuleSet ρ) (rs : List ρ) : RuleSet ρ :=
  rs.foldl push s

def ofList (rs : List ρ) : RuleSet ρ :=
  empty.extend rs

/-- The names of all rules, kind by kind. -/
def names (s : RuleSet ρ) : List String :=
  s.toList.map Rule.name

def reset (s : RuleSet ρ) : RuleSet ρ where
  chunk := s.chunk.map Rule.reset
  semantic := s.semantic.map Rule.reset
  avm := s.avm.map Rule.reset

/-- The number of slots that the rules filled. -/
def filledSlots (s : RuleSet ρ) : Nat :=
  s.avm.foldr (Rule.filledSlots · + ·) 0

end RuleSet

/-- A change of the rules of one kind and of the lexicon. -/
abbrev RulesM (ρ : Type) := EStateM Error (List ρ × Lexicon)

namespace RulesM

variable {ρ α : Type}

/-- Runs `f` on every rule in turn and collects the answers. -/
def forEach (f : EStateM Error (ρ × Lexicon) α) : List ρ → Lexicon →
    EStateM.Result Error (List ρ × Lexicon) (List α)
  | [], l => .ok [] ([], l)
  | r :: rs, l =>
    match f (r, l) with
    | .error e (r, l) => .error e (r :: rs, l)
    | .ok a (r, l) =>
      match forEach f rs l with
      | .error e (rs, l) => .error e (r :: rs, l)
      | .ok as (rs, l) => .ok (a :: as) (r :: rs, l)

def each (f : EStateM Error (ρ × Lexicon) α) : RulesM ρ (List α) := fun (rs, l) =>
  forEach f rs l

/-- Runs `f` on the rules in turn until one answers. -/
def firstOf (f : EStateM Error (ρ × Lexicon) (Option α)) : List ρ → Lexicon →
    EStateM.Result Error (List ρ × Lexicon) (Option α)
  | [], l => .ok none ([], l)
  | r :: rs, l =>
    match f (r, l) with
    | .error e (r, l) => .error e (r :: rs, l)
    | .ok (some a) (r, l) => .ok (some a) (r :: rs, l)
    | .ok none (r, l) =>
      match firstOf f rs l with
      | .error e (rs, l) => .error e (r :: rs, l)
      | .ok a (rs, l) => .ok a (r :: rs, l)

def first (f : EStateM Error (ρ × Lexicon) (Option α)) : RulesM ρ (Option α) := fun (rs, l) =>
  firstOf f rs l

end RulesM

namespace Rule

variable {ρ : Type} [Rule ρ]

/-- Checks a sequence against the current graph. -/
def checkNow (seq : List MachineId) : EStateM Error (ρ × Lexicon) Bool := fun (r, l) =>
  onPart (·, l) (check l.graph seq) r

/-- Runs a change of the lexicon beside the rule. -/
def onlyLexicon {α : Type} (x : LexiconM α) : EStateM Error (ρ × Lexicon) α := fun (r, l) =>
  onPart (r, ·) x l

end Rule

end MeaningGraph
