/-
Sessions: a lexicon and the rules that work on it, which change together.

Rules of one kind run beside the lexicon; the lifts below put both back whatever the outcome, so what was
changed before a failure stays changed.
-/
import MeaningGraph.Rule.Set

namespace MeaningGraph

/-- A lexicon and the rules that work on it. -/
structure Session (ρ : Type) where
  lexicon : Lexicon := {}
  rules : RuleSet ρ := {}
deriving Repr

/-- Changes of a session that can fail, and keep what was changed before. -/
abbrev SessionM (ρ : Type) := EStateM Error (Session ρ)

namespace SessionM

variable {ρ α : Type}

def onLexicon (x : LexiconM α) : SessionM ρ α := fun s =>
  Rule.onPart (fun lexicon => { s with lexicon }) x s.lexicon

def onChunkRules (x : RulesM ρ α) : SessionM ρ α := fun s =>
  Rule.onPart (fun (rs, lexicon) => { lexicon, rules := { s.rules with chunk := rs } }) x
    (s.rules.chunk, s.lexicon)

def onSemanticRules (x : RulesM ρ α) : SessionM ρ α := fun s =>
  Rule.onPart (fun (rs, lexicon) => { lexicon, rules := { s.rules with semantic := rs } }) x
    (s.rules.semantic, s.lexicon)

def onAvmRules (x : RulesM ρ α) : SessionM ρ α := fun s =>
  Rule.onPart (fun (rs, lexicon) => { lexicon, rules := { s.rules with avm := rs } }) x
    (s.rules.avm, s.lexicon)

end SessionM

end MeaningGraph
