/-
Analyses of sentences.

A sentence is a list of phrases of words that an analyzer has stemmed and tagged.  An analysis forgets the
sentence before, makes a machine of every word, named by the stem and with the control of the tag, and
spreads activation from there.  A phrase may carry a case; it is written into the KR code of the phrase's
last word, if that code has no case of its own.
-/
import MeaningGraph.Activation.Run

namespace MeaningGraph

/-- A word: its stem and its analyzer tag. -/
structure Word where
  stem : String
  tag : String
deriving DecidableEq, Repr

/-- A phrase: its words, and its case if the analyzer gave one. -/
structure Phrase where
  words : List Word
  case? : Option String := none
deriving DecidableEq, Repr

def caseKey : String := "CAS"

namespace Control

/-- The control with the case of the phrase, if it is a KR code without a case. -/
def withCase (case? : Option String) : Control → Control
  | .kr code =>
    match case?, code.get? caseKey with
    | some value, none => .kr (code.set caseKey value)
    | _, _ => .kr code
  | c => c

end Control

namespace Analysis

variable {ρ : Type} [Rule ρ]

/-- Makes the machines of words; the case goes to the last of them. -/
def seedWords (case? : Option String) : List Word → LexiconM (List MachineId)
  | [] => pure []
  | w :: ws => do
    let control ← Lexicon.ask fun _ => Control.ofTag w.tag
    let control := if ws.isEmpty then control.withCase case? else control
    let id ← Lexicon.create w.stem (some control)
    let ids ← seedWords case? ws
    return id :: ids

/-- Makes the machines of phrases, a chunk for each. -/
def seed : List Phrase → LexiconM (List (List MachineId))
  | [] => pure []
  | p :: ps => do
    let chunk ← seedWords p.case? p.words
    let chunks ← seed ps
    return chunk :: chunks

/-- Forgets the sentence before. -/
def clear (s : Session ρ) : Session ρ :=
  { lexicon := s.lexicon.clearActive, rules := s.rules.reset }

def analyze (o : Options) (sentence : List Phrase) : SessionM ρ Outcome := do
  modify clear
  let chunks ← SessionM.onLexicon (seed sentence)
  Activation.run o chunks

/-- Analyses sentences one after the other, from number `i` on.  One that fails is left out, and what it
changed stays changed; but an overflow ends the batch. -/
def analyzeFrom (o : Options) : Nat → List (List Phrase) → SessionM ρ (List (Nat × Outcome))
  | _, [] => pure []
  | i, sentence :: rest => fun s =>
    match analyze o sentence s with
    | .ok outcome s => ((i, outcome) :: ·) <$> analyzeFrom o (i + 1) rest <| s
    | .error .overflow s => .error .overflow s
    | .error _ s => analyzeFrom o (i + 1) rest s

/-- Analyses sentences one after the other; each answer comes with the number of its sentence. -/
def analyzeBatch (o : Options) (sentences : List (List Phrase)) : SessionM ρ (List (Nat × Outcome)) :=
  analyzeFrom o 0 sentences

end Analysis

end MeaningGraph
