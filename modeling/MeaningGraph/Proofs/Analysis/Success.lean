/-
# An analysis fails on a tag, or not at all

An analysis reads tags from outside, and that is all that can go wrong in it as long as its budget fits in a word.
The machines of the words are made one after the other; a word whose tag is rejected ends the analysis there, and the
error names its tag.  Once all machines are made they are live, the lexicon is ready since it was cleared, and the
main loop answers.

    clear        ready, unless a definition was stale or active
    seed         fails at the first rejected tag
    run          answers, unless there is no budget for as many machines as there are words

A definition that is active when the analysis starts may be freed by clearing while its handle stays in the
static table; hence the condition.
-/
import MeaningGraph.Proofs.Activation.Success
import MeaningGraph.Proofs.Analysis.Background

namespace MeaningGraph

open Lexicon (Gains)
open Outcome

variable {l : Lexicon} {w : Word} {words : List Word} {sentence : List Phrase} {s : Session Construction}

/-! ## Tags -/

/-- The tag of the word is rejected. -/
def Word.isRejected (w : Word) : Bool :=
  !(Control.ofTag w.tag).isOk

theorem Control.ofTag_error {tag : String} {e : Error} (h : ofTag tag = .error e) : e = .invalidTag tag := by
  unfold ofTag at h
  dsimp only at h
  split at h
  · cases h
    rfl
  · split at h
    · split at h
      · cases h
      · cases h
        rfl
    · cases h

theorem Word.ofTag_of_rejected (h : w.isRejected = true) : Control.ofTag w.tag = .error (.invalidTag w.tag) := by
  unfold isRejected at h
  cases htag : Control.ofTag w.tag with
  | ok control =>
    rw [htag] at h
    cases h
  | error e => rw [Control.ofTag_error htag]

theorem Word.exists_ofTag (h : w.isRejected = false) : ∃ control, Control.ofTag w.tag = .ok control := by
  unfold isRejected at h
  cases htag : Control.ofTag w.tag with
  | ok control => exact ⟨control, rfl⟩
  | error e =>
    rw [htag] at h
    cases h

namespace RuleSet

theorem mem_toList_push (rules : RuleSet Construction) (c d : Construction) :
    d ∈ (rules.push c).toList ↔ d ∈ rules.toList ∨ d = c := by
  unfold push
  cases Rule.kind c <;> simp only [toList, List.mem_append, List.mem_singleton] <;> tauto

theorem mem_toList_ofList {cs : List Construction} {c : Construction} : c ∈ (ofList cs).toList ↔ c ∈ cs := by
  have hextend : ∀ rules : RuleSet Construction, c ∈ (rules.extend cs).toList ↔ c ∈ rules.toList ∨ c ∈ cs := by
    induction cs with
    | nil => simp [extend]
    | cons d ds ih =>
      intro rules
      refine (ih (rules.push d)).trans ?_
      rw [mem_toList_push, List.mem_cons, or_assoc]
  exact (hextend empty).trans (by simp [empty, toList])

end RuleSet

namespace Analysis

/-- The first word of the sentence whose tag is rejected. -/
def firstRejected? (sentence : List Phrase) : Option Word :=
  (sentence.flatMap (·.words)).find? Word.isRejected

/-! ## Seeding -/

theorem attains_seedWords (hl : l.Ready) (case? : Option String) (h : words.find? Word.isRejected = none) :
    Attains Gains (fun ids l' => ids.length = words.length ∧ ∀ id ∈ ids, l'.graph.contains id = true) l
      (seedWords case? words l) := by
  induction words generalizing l with
  | nil => exact .pure ⟨rfl, List.forall_mem_nil _⟩
  | cons w ws ih =>
    obtain ⟨hw, hws⟩ := List.forall_mem_cons.1 (List.find?_eq_none.1 h)
    obtain ⟨control, htag⟩ := Word.exists_ofTag (Bool.eq_false_iff.2 hw)
    rw [seedWords, Lexicon.ask_bind htag]
    refine (hl.sound.attains_create w.stem _).bind fun id l₁ h₁ hid => ?_
    refine (ih (h₁.ready hl) (List.find?_eq_none.2 hws)).bind fun ids l₂ h₂ ⟨hlength, hids⟩ => ?_
    exact .pure ⟨congrArg (· + 1) hlength, List.forall_mem_cons.2 ⟨h₂.contains (h₁.ready hl) hid, hids⟩⟩

theorem seedWords_of_rejected (case? : Option String) (l : Lexicon)
    (h : words.find? Word.isRejected = some w) :
    ∃ l', seedWords case? words l = .error (.invalidTag w.tag) l' := by
  induction words generalizing l with
  | nil => cases h
  | cons v vs ih =>
    rw [List.find?_cons] at h
    cases hv : v.isRejected with
    | true =>
      rw [hv] at h
      cases h
      rw [seedWords, Lexicon.ask_bind_error (Word.ofTag_of_rejected hv)]
      exact ⟨l, rfl⟩
    | false =>
      rw [hv] at h
      obtain ⟨control, htag⟩ := Word.exists_ofTag hv
      rw [seedWords, Lexicon.ask_bind htag]
      generalize (if vs.isEmpty then control.withCase case? else control) = control
      obtain ⟨id, l₁, hcreate⟩ : ∃ id l₁, Lexicon.create v.stem (some control) l = .ok id l₁ := ⟨_, _, rfl⟩
      obtain ⟨l', hrest⟩ := ih l₁ h
      exact ⟨l', (bind_eq_of_ok hcreate).trans (bind_eq_of_error hrest)⟩

theorem attains_seed (hl : l.Ready) (h : firstRejected? sentence = none) :
    Attains Gains (fun chunks l' => chunks.flatten.length = (sentence.flatMap (·.words)).length ∧
        ∀ chunk ∈ chunks, ∀ id ∈ chunk, l'.graph.contains id = true) l
      (seed sentence l) := by
  induction sentence generalizing l with
  | nil => exact .pure ⟨rfl, List.forall_mem_nil _⟩
  | cons p ps ih =>
    rw [firstRejected?, List.flatMap_cons, List.find?_append, Option.or_eq_none_iff] at h
    refine (attains_seedWords hl p.case? h.1).bind fun chunk l₁ h₁ ⟨hlength, hchunk⟩ => ?_
    refine (ih (h₁.ready hl) h.2).bind fun chunks l₂ h₂ ⟨hlengths, hchunks⟩ => ?_
    refine .pure ⟨?_, List.forall_mem_cons.2 ⟨fun id hid => h₂.contains (h₁.ready hl) (hchunk id hid), hchunks⟩⟩
    rw [List.flatten_cons, List.flatMap_cons, List.length_append, List.length_append, hlength, hlengths]

theorem seed_of_rejected (hl : l.Ready) (h : firstRejected? sentence = some w) :
    ∃ l', seed sentence l = .error (.invalidTag w.tag) l' := by
  induction sentence generalizing l with
  | nil => cases h
  | cons p ps ih =>
    rw [firstRejected?, List.flatMap_cons, List.find?_append, Option.or_eq_some_iff] at h
    rcases h with h | ⟨hnone, h⟩
    · obtain ⟨l', hseed⟩ := seedWords_of_rejected p.case? l h
      exact ⟨l', bind_eq_of_error hseed⟩
    · obtain ⟨chunk, l₁, hchunk, h₁, -⟩ := attains_seedWords hl p.case? hnone
      obtain ⟨l', hseed⟩ := ih (h₁.ready hl) h
      exact ⟨l', (bind_eq_of_ok hchunk).trans (bind_eq_of_error hseed)⟩

/-! ## Analyses -/

theorem wellMade_of_built {c : Construction} (h : c.Built ∨ Rule.kind c = .avm) : c.WellMade := by
  rcases h with h | h
  · exact h.wellMade
  · rintro r rfl
    cases h

theorem ready_clear (hl : s.lexicon.Reachable)
    (hstatics : ∀ id ∈ s.lexicon.statics.values,
      s.lexicon.graph.contains id = true ∧ s.lexicon.isActive id = false)
    (hrules : ∀ c ∈ s.rules.toList, c.Built ∨ Rule.kind c = .avm) : (clear s).Ready := by
  refine ⟨hl.ready_clearActive hstatics, ?_⟩
  intro k c hc
  change c ∈ s.rules.reset.ofKind k at hc
  rw [ofKind_reset] at hc
  obtain ⟨d, hd, rfl⟩ := List.mem_map.1 hc
  exact (wellMade_of_built (hrules d (RuleSet.mem_toList_iff.2 ⟨k, hd⟩))).congr d.program_reset

/-- The product that the budget of an analysis is, if it fits in a word. -/
def budget (o : Options) (sentence : List Phrase) : Nat :=
  max o.maxIterations 1 * max (sentence.flatMap (·.words)).length 1

/-- An analysis whose budget fits in a word answers exactly when no tag of the sentence is rejected, and otherwise
fails with the first tag that is.  So it is in every lexicon that can be reached in which no definition is stale or
active, with all rules that can be built, and whatever has been analysed before.  For options under which the budget
does not fit, the first rejected tag is reported as well, and a sentence without one overflows. -/
theorem analyze_fails_on_tags_only (hl : s.lexicon.Reachable)
    (hstatics : ∀ id ∈ s.lexicon.statics.values,
      s.lexicon.graph.contains id = true ∧ s.lexicon.isActive id = false)
    (hrules : ∀ c ∈ s.rules.toList, c.Built ∨ Rule.kind c = .avm) (o : Options) (sentence : List Phrase) :
    (firstRejected? sentence = none → budget o sentence < 2 ^ 64 →
      ∃ outcome t, analyze o sentence s = .ok outcome t) ∧
    (∀ w, firstRejected? sentence = some w → ∃ t, analyze o sentence s = .error (.invalidTag w.tag) t) ∧
    (firstRejected? sentence = none → 2 ^ 64 ≤ budget o sentence →
      ∃ t, analyze o sentence s = .error .overflow t) := by
  have hready := ready_clear hl hstatics hrules
  have hclear : analyze o sentence s =
      (SessionM.onLexicon (seed sentence) >>= fun chunks => Activation.run o chunks) (clear s) := rfl
  rw [hclear]
  refine ⟨fun hnone hfits => ?_, fun w hw => ?_, fun hnone hoverflow => ?_⟩
  · have hrun := (Session.attains_onLexicon (attains_seed hready.lexicon hnone)).bind
      fun chunks t ht ⟨hlength, hchunks⟩ => Activation.attains_run (hready.onward ht) o
        (Activation.reductionBudget_ok_iff.2 ⟨hlength ▸ hfits, rfl⟩) hchunks
    obtain ⟨outcome, t, hok, -⟩ := hrun
    exact ⟨outcome, t, hok⟩
  · obtain ⟨l', hseed⟩ := seed_of_rejected hready.lexicon hw
    have hlift : SessionM.onLexicon (seed sentence) (clear s) =
        .error (.invalidTag w.tag) { clear s with lexicon := l' } := by
      rw [SessionM.onLexicon, Rule.onPart, hseed]
    exact ⟨_, bind_eq_of_error hlift⟩
  · obtain ⟨chunks, l₁, hseed, -, hlength, hlive⟩ := attains_seed hready.lexicon hnone
    obtain ⟨_, l₂, hadd, -⟩ := Lexicon.attains_addActive_flatten hlive
    refine ⟨_, (bind_eq_of_ok (SessionM.onLexicon_of_ok hseed)).trans (Activation.run_of_overflow hadd ?_)⟩
    rw [hlength]
    exact hoverflow

/-- A session with a verb, its cases and a matrix for the ticket, and all kinds of rules. -/
def bookings : Session Construction :=
  ⟨VerbRule.journey, .ofList [.append NounPhrase.detNoun, .verb VerbRule.going,
    .trigger ⟨"booking", ["ticket"], ⟨"book", []⟩⟩,
    .avm ⟨"ticket", { slots := [{ name := "price", matcher := .exact "fare", kind := .required }] }⟩]⟩

/-- From home to town with a ticket. -/
def outing : List Phrase :=
  [⟨[⟨"go", "go/VERB"⟩], none⟩, ⟨[⟨"home", "home/NOUN<CAS<ELA>>"⟩], none⟩,
    ⟨[⟨"the", "the/ART"⟩, ⟨"town", "town/NOUN<POSS>"⟩], some "ILL"⟩, ⟨[⟨"ticket", "NOUN"⟩], none⟩]

theorem analyze_fails_on_tags_only_bookings :
    (∃ outcome t, analyze {} outing bookings = .ok outcome t) ∧
    ∃ t, analyze {} (outing ++ [⟨[⟨"at", "at/"⟩, ⟨"noon", "noon/NOUN<CAS"⟩], none⟩]) bookings =
      .error (.invalidTag "at/") t := by
  have hl : bookings.lexicon.Reachable := ⟨_, rfl⟩
  have hstatics : ∀ id ∈ bookings.lexicon.statics.values,
      bookings.lexicon.graph.contains id = true ∧ bookings.lexicon.isActive id = false := by
    decide +kernel
  have hrules : ∀ c ∈ bookings.rules.toList, c.Built ∨ Rule.kind c = .avm := by
    intro c hc
    have hgoing : VerbRule.ofLexicon? VerbRule.journey "go" .default = .ok (some VerbRule.going) := rfl
    rcases List.mem_cons.1 (RuleSet.mem_toList_ofList.1 hc) with rfl | hc
    · exact .inl (.append _)
    rcases List.mem_cons.1 hc with rfl | hc
    · exact .inl (.verb hgoing [])
    rcases List.mem_cons.1 hc with rfl | hc
    · exact .inl (.trigger _)
    rcases List.mem_singleton.1 hc with rfl
    exact .inr rfl
  have haccepted : firstRejected? outing = none := by decide +kernel
  have hrejected : firstRejected? (outing ++ [⟨[⟨"at", "at/"⟩, ⟨"noon", "noon/NOUN<CAS"⟩], none⟩]) =
      some ⟨"at", "at/"⟩ := by
    decide +kernel
  exact ⟨(analyze_fails_on_tags_only hl hstatics hrules {} outing).1 haccepted (by decide),
    (analyze_fails_on_tags_only hl hstatics hrules {} _).2.1 _ hrejected⟩

end Analysis

end MeaningGraph
