/-
# The sentences of a batch are independent

In a batch, sentence `i` is analysed from the session that the sentences before it left behind.  That
session has kept the background and the programs of the initial one, so once both are cleared they start as
twins, and the two analyses answer or fail together and answer the same, up to the handles of machines.

They also overflow together.  A sentence that fails is left out, but an overflow ends the batch, and the answers to
the other sentences are lost with it.  With 2 ^ 63 iterations there is a budget for one word and none for two:

    [train]                  is answered
    [train] [the train]      is not, though `train` alone would be
-/
import Mathlib.Algebra.Group.Nat.Defs
import MeaningGraph.Proofs.Analysis.Background

namespace MeaningGraph

open List (Forall₂)
open Outcome (answer? exists_of_answer? state steps_of_ok)

namespace Analysis

variable {s t : Session Construction} {o : Options} {sentence : List Phrase}
  {sentences : List (List Phrase)} {outcome : Outcome} {results : List (Nat × Outcome)} {n k : Nat}

/-! ## Batches -/

/-- The session after sentences were analysed one after the other. -/
def sessionAfter (o : Options) (s : Session Construction) (sentences : List (List Phrase)) :
    Session Construction :=
  sentences.foldl (fun s sentence => state (analyze o sentence s)) s

def Overflows (o : Options) (sentence : List Phrase) (s : Session Construction) : Prop :=
  ∃ t, analyze o sentence s = .error .overflow t

theorem analyzeFrom_cons_ok (h : analyze o sentence s = .ok outcome t) :
    analyzeFrom o n (sentence :: sentences) s =
      (((n, outcome) :: ·) <$> analyzeFrom o (n + 1) sentences) t := by
  simp only [analyzeFrom, h]

theorem analyzeFrom_cons_error {e : Error} (h : analyze o sentence s = .error e t) (he : e ≠ .overflow) :
    analyzeFrom o n (sentence :: sentences) s = analyzeFrom o (n + 1) sentences t := by
  simp only [analyzeFrom, h]

theorem analyzeFrom_cons_overflow (h : analyze o sentence s = .error .overflow t) :
    analyzeFrom o n (sentence :: sentences) s = .error .overflow t := by
  simp only [analyzeFrom, h]

theorem analyzeFrom_cons_cases (h : analyzeFrom o n (sentence :: sentences) s = .ok results t) :
    ∃ rest, analyzeFrom o (n + 1) sentences (state (analyze o sentence s)) = .ok rest t ∧
      ∀ k outcome, (k, outcome) ∈ results ↔
        (k = n ∧ ∃ t, analyze o sentence s = .ok outcome t) ∨ (k, outcome) ∈ rest := by
  cases hfirst : analyze o sentence s with
  | ok answer t₁ =>
    rw [analyzeFrom_cons_ok hfirst, ← bind_pure_comp] at h
    obtain ⟨rest, t₂, hrest, hend⟩ := steps_of_ok h
    cases hend
    refine ⟨rest, hrest, fun k outcome => ?_⟩
    rw [List.mem_cons]
    refine or_congr ⟨?_, ?_⟩ Iff.rfl
    · intro heq
      cases heq
      exact ⟨rfl, t₁, rfl⟩
    · rintro ⟨rfl, t', ht⟩
      cases ht
      rfl
  | error e t₁ =>
    by_cases he : e = .overflow
    · subst he
      rw [analyzeFrom_cons_overflow hfirst] at h
      cases h
    · rw [analyzeFrom_cons_error hfirst he] at h
      refine ⟨results, h, fun k outcome => ⟨.inr, fun hmem => hmem.resolve_left ?_⟩⟩
      rintro ⟨-, t', ht⟩
      cases ht

theorem mem_analyzeFrom (h : analyzeFrom o n sentences s = .ok results t) :
    (k, outcome) ∈ results ↔
      ∃ i sentence t, k = n + i ∧ sentences[i]? = some sentence ∧
        analyze o sentence (sessionAfter o s (sentences.take i)) = .ok outcome t := by
  induction sentences generalizing n s results with
  | nil =>
    cases h
    simp
  | cons first others ih =>
    obtain ⟨rest, hrest, hmem⟩ := analyzeFrom_cons_cases h
    rw [hmem, ih hrest]
    constructor
    · rintro (⟨rfl, t, ht⟩ | ⟨i, sentence, t, rfl, hi, ht⟩)
      · exact ⟨0, first, t, rfl, rfl, ht⟩
      · exact ⟨i + 1, sentence, t, Nat.add_right_comm n 1 i, hi, ht⟩
    · rintro ⟨i, sentence, t, rfl, hi, ht⟩
      cases i with
      | zero =>
        cases hi
        exact .inl ⟨rfl, t, ht⟩
      | succ i => exact .inr ⟨i, sentence, t, Nat.add_right_comm n i 1, hi, ht⟩

theorem mem_analyzeBatch {i : Nat} (h : analyzeBatch o sentences s = .ok results t)
    (hi : sentences[i]? = some sentence) :
    (i, outcome) ∈ results ↔
      ∃ t, analyze o sentence (sessionAfter o s (sentences.take i)) = .ok outcome t := by
  refine (mem_analyzeFrom h).trans ⟨?_, fun ⟨t, ht⟩ => ⟨i, sentence, t, (Nat.zero_add i).symm, hi, ht⟩⟩
  rintro ⟨j, other, t, hj, hother, ht⟩
  obtain rfl : i = j := hj.trans (Nat.zero_add j)
  rw [hi] at hother
  cases hother
  exact ⟨t, ht⟩

theorem Kept.steps (h : Kept s t) (o : Options) (sentences : List (List Phrase)) :
    Kept s (sessionAfter o t sentences) := by
  induction sentences generalizing t with
  | nil => exact h
  | cons sentence sentences ih => exact ih (h.step o sentence)

/-! ## Independence -/

/-- Two analyses ended with the same answer, up to the handles of machines: the messages, the numbers of the
unreduced chunks, the stop reason and all counters are the same, and a renaming of handles, one to one, takes
the chunks of the one to those of the other and every machine below them to one of the same name and control
whose partitions hold the renamed machines in the same order. -/
structure SameAnswer (x : Outcome) (s : Session Construction) (y : Outcome) (t : Session Construction) :
    Prop where
  messages : x.messages = y.messages
  unreduced : x.unreduced = y.unreduced
  stop : x.stop = y.stop
  reductions : x.reductions = y.reductions
  iterations : x.iterations = y.iterations
  lengths : x.chunks.map List.length = y.chunks.map List.length
  graphs : ∃ v : Pairing, Relator.BiUnique v ∧ Forall₂ (Forall₂ v) x.chunks y.chunks ∧
    Graph.Paired v s.lexicon.graph t.lexicon.graph

/-- Analyses from sessions of one background and one program answer or fail together. -/
theorem Kept.sameAnswer (h : Kept s t) (hs : s.lexicon.Sound) (o : Options) (sentence : List Phrase) :
    (∀ x s', analyze o sentence s = .ok x s' →
      ∃ y t', analyze o sentence t = .ok y t' ∧ SameAnswer x s' y t') ∧
    ∀ e s', analyze o sentence s = .error e s' →
      ∃ e' t', analyze o sentence t = .error e' t' ∧ (e = .overflow ↔ e' = .overflow) := by
  have hagree := analyze_twin (h.runs hs) o sentence
  constructor
  · intro x s' hx
    rw [hx] at hagree
    obtain ⟨y, t', w, hy, -, hruns, hxy⟩ := hagree.of_ok
    refine ⟨y, t', hy, hxy.messages, hxy.unreduced, hxy.stop, hxy.reductions, hxy.iterations, ?_, ?_⟩
    · exact map_eq_of_rel hxy.chunks fun _ _ hc => hc.length_eq
    · exact ⟨w.own, hruns.lexica.unique, hxy.chunks, hruns.lexica.alike⟩
  · intro e s' he
    rw [he] at hagree
    cases ht : analyze o sentence t with
    | ok y t' =>
      rw [ht] at hagree
      exact hagree.elim
    | error e' t' =>
      rw [ht] at hagree
      exact ⟨e', t', rfl, hagree.1⟩

theorem Kept.exists_alone (h : Kept s t) (hs : s.lexicon.Sound) {t' : Session Construction}
    (ht : analyze o sentence t = .ok outcome t') :
    ∃ alone s', analyze o sentence s = .ok alone s' ∧ SameAnswer alone s' outcome t' := by
  obtain ⟨hok, herror⟩ := h.sameAnswer hs o sentence
  cases halone : analyze o sentence s with
  | ok alone s' =>
    obtain ⟨y, t'', hy, hsame⟩ := hok alone s' halone
    rw [ht] at hy
    cases hy
    exact ⟨alone, s', rfl, hsame⟩
  | error e s' =>
    obtain ⟨e', t'', he, -⟩ := herror e s' halone
    rw [ht] at he
    cases he

theorem Kept.overflows_iff (h : Kept s t) (hs : s.lexicon.Sound) :
    Overflows o sentence t ↔ Overflows o sentence s := by
  obtain ⟨hok, herror⟩ := h.sameAnswer hs o sentence
  unfold Overflows
  cases hx : analyze o sentence s with
  | ok x s' =>
    obtain ⟨y, t', hy, -⟩ := hok x s' hx
    simp [hy]
  | error e s' =>
    obtain ⟨e', t', he, hiff⟩ := herror e s' hx
    simp [he, hiff]

/-- A batch answers or overflows, and it overflows if and only if some sentence does alone.  The induction is on the
sentences; each starts from a session that has kept the background and the programs. -/
theorem Kept.analyzeFrom_cases (h : Kept s t) (hs : s.lexicon.Sound) (o : Options)
    (sentences : List (List Phrase)) (n : Nat) :
    ((∃ results, analyzeFrom o n sentences t = .ok results (sessionAfter o t sentences)) ∧
      ∀ sentence ∈ sentences, ¬ Overflows o sentence s) ∨
    (∃ t', analyzeFrom o n sentences t = .error .overflow t') ∧ ∃ sentence ∈ sentences, Overflows o sentence s := by
  induction sentences generalizing t n with
  | nil => exact .inl ⟨⟨[], rfl⟩, List.forall_mem_nil _⟩
  | cons sentence sentences ih =>
    have hafter := ih (h.step o sentence) (n + 1)
    cases hfirst : analyze o sentence t with
    | ok outcome t₁ =>
      rw [hfirst] at hafter
      have hfits : ¬ Overflows o sentence s := by
        rw [← h.overflows_iff hs, Overflows, hfirst]
        simp
      have hmap : analyzeFrom o n (sentence :: sentences) t =
          (((n, outcome) :: ·) <$> analyzeFrom o (n + 1) sentences) t₁ := analyzeFrom_cons_ok hfirst
      rcases hafter with ⟨⟨results, hresults⟩, hothers⟩ | ⟨⟨t', ht'⟩, hothers⟩
      · refine .inl ⟨⟨(n, outcome) :: results, ?_⟩, List.forall_mem_cons.2 ⟨hfits, hothers⟩⟩
        rw [hmap, ← bind_pure_comp, sessionAfter, List.foldl_cons, hfirst]
        exact Outcome.bind_eq_of_ok hresults
      · obtain ⟨other, hother, hoverflows⟩ := hothers
        refine .inr ⟨⟨t', ?_⟩, other, List.mem_cons_of_mem _ hother, hoverflows⟩
        rw [hmap, ← bind_pure_comp]
        exact Outcome.bind_eq_of_error ht'
    | error e t₁ =>
      rw [hfirst] at hafter
      by_cases he : e = .overflow
      · subst he
        have hoverflows : Overflows o sentence s := (h.overflows_iff hs).1 ⟨t₁, hfirst⟩
        exact .inr ⟨⟨t₁, analyzeFrom_cons_overflow hfirst⟩, sentence, List.mem_cons_self, hoverflows⟩
      · have hfits : ¬ Overflows o sentence s := by
          rw [← h.overflows_iff hs, Overflows, hfirst]
          simp [he]
        rw [analyzeFrom_cons_error hfirst he, sessionAfter, List.foldl_cons, hfirst]
        refine hafter.imp ?_ ?_
        · exact And.imp_right fun hothers => List.forall_mem_cons.2 ⟨hfits, hothers⟩
        · exact And.imp_right fun ⟨other, hother, hoverflows⟩ =>
            ⟨other, List.mem_cons_of_mem _ hother, hoverflows⟩

theorem Kept.exists_analyzeFrom_take (h : Kept s t) (hs : s.lexicon.Sound) {t' : Session Construction}
    (ht : analyzeFrom o n sentences t = .ok results t') (i : Nat) :
    ∃ before, analyzeFrom o n (sentences.take i) t = .ok before (sessionAfter o t (sentences.take i)) := by
  rcases h.analyzeFrom_cases hs o (sentences.take i) n with ⟨hanswer, -⟩ | ⟨-, other, hother, hoverflows⟩
  · exact hanswer
  · rcases h.analyzeFrom_cases hs o sentences n with ⟨-, hnone⟩ | ⟨⟨t₁, ht₁⟩, -⟩
    · exact (hnone other (List.mem_of_mem_take hother) hoverflows).elim
    · rw [ht] at ht₁
      cases ht₁

/-- A batch answers if and only if none of its sentences overflows alone, and it fails in no other way.  In one that
answers, sentence `i` has an answer exactly when its analysis alone, from the initial session, has one; and then the
answer in the batch is the one it has alone, up to the handles of machines. -/
theorem analyzeBatch_independent (s : Session Construction) (h : s.lexicon.Reachable) (o : Options)
    (sentences : List (List Phrase)) :
    ((∃ results t, analyzeBatch o sentences s = .ok results t) ↔
      ∀ sentence ∈ sentences, ¬ ∃ t, analyze o sentence s = .error .overflow t) ∧
    (∀ e t, analyzeBatch o sentences s = .error e t → e = .overflow) ∧
    ∀ results t, analyzeBatch o sentences s = .ok results t → ∀ i sentence, sentences[i]? = some sentence →
      ((∃ outcome, (i, outcome) ∈ results) ↔ ∃ alone s', analyze o sentence s = .ok alone s') ∧
      ∀ outcome, (i, outcome) ∈ results →
        ∃ alone s' before s₀ t', analyze o sentence s = .ok alone s' ∧
          analyzeBatch o (sentences.take i) s = .ok before s₀ ∧ analyze o sentence s₀ = .ok outcome t' ∧
          SameAnswer alone s' outcome t' := by
  have hself := Kept.refl h.sound
  have hcases := fun sentences => hself.analyzeFrom_cases h.sound o sentences 0
  refine ⟨?_, ?_, ?_⟩
  · rcases hcases sentences with ⟨⟨results, hresults⟩, hnone⟩ | ⟨⟨t, ht⟩, sentence, hmem, hoverflows⟩
    · exact ⟨fun _ => hnone, fun _ => ⟨results, _, hresults⟩⟩
    · refine ⟨?_, fun hnone => (hnone sentence hmem hoverflows).elim⟩
      rintro ⟨results, t', hok⟩
      rw [analyzeBatch, ht] at hok
      cases hok
  · intro e t herror
    rcases hcases sentences with ⟨⟨results, hresults⟩, -⟩ | ⟨⟨t', ht'⟩, -⟩
    · rw [analyzeBatch, hresults] at herror
      cases herror
    · rw [analyzeBatch, ht'] at herror
      cases herror
      rfl
  · intro results t hresults i sentence hi
    have hkept := hself.steps o (sentences.take i)
    obtain ⟨before, hbefore⟩ := hself.exists_analyzeFrom_take h.sound hresults i
    constructor
    · constructor
      · rintro ⟨outcome, hmem⟩
        obtain ⟨t', ht⟩ := (mem_analyzeBatch hresults hi).1 hmem
        obtain ⟨alone, s', hs, -⟩ := hkept.exists_alone h.sound ht
        exact ⟨alone, s', hs⟩
      · rintro ⟨alone, s', hs⟩
        obtain ⟨y, t', hy, -⟩ := (hkept.sameAnswer h.sound o sentence).1 alone s' hs
        exact ⟨y, (mem_analyzeBatch hresults hi).2 ⟨t', hy⟩⟩
    · intro outcome hmem
      obtain ⟨t', ht⟩ := (mem_analyzeBatch hresults hi).1 hmem
      obtain ⟨alone, s', hs, hsame⟩ := hkept.exists_alone h.sound ht
      exact ⟨alone, s', before, _, t', hs, hbefore, ht, hsame⟩

/-- The article goes below the train. -/
def theTrain : List Phrase :=
  [⟨[⟨"the", "the/ART"⟩, ⟨"train", "train/NOUN"⟩], none⟩]

/-- The same, and then a word whose tag is rejected. -/
def theTrainAt : List Phrase :=
  theTrain ++ [⟨[⟨"at", "at/"⟩], none⟩]

/-- The first sentence leaves a train that holds an article, and the second fails when it has made two machines in
their places.  The third has the answer that it has alone, about other machines. -/
theorem analyzeBatch_independent_theTrain :
    ((state (analyze {} theTrain railway)).lexicon.graph.find? ⟨2, 1⟩).map (·.parts) = some [[⟨1, 1⟩]] ∧
    ∃ results t outcome alone s' before s₀ t',
      analyzeBatch {} [theTrain, theTrainAt, theTrain] railway = .ok results t ∧ results.map (·.1) = [0, 2] ∧
      (2, outcome) ∈ results ∧ analyze {} theTrain railway = .ok alone s' ∧ alone.chunks = [[⟨2, 1⟩]] ∧
      analyzeBatch {} [theTrain, theTrainAt] railway = .ok before s₀ ∧
      s₀.lexicon.graph.handles = [⟨0, 1⟩, ⟨1, 3⟩, ⟨2, 3⟩] ∧ analyze {} theTrain s₀ = .ok outcome t' ∧
      outcome.chunks = [[⟨1, 5⟩]] ∧ SameAnswer alone s' outcome t' := by
  have hbatch : (answer? (analyzeBatch {} [theTrain, theTrainAt, theTrain] railway)).map
      (·.map fun x => (x.1, x.2.chunks)) = some [(0, [[⟨2, 1⟩]]), (2, [[⟨1, 5⟩]])] := by decide +kernel
  have hhandles : (state (analyzeBatch {} [theTrain, theTrainAt] railway)).lexicon.graph.handles =
      [⟨0, 1⟩, ⟨1, 3⟩, ⟨2, 3⟩] := by decide +kernel
  have hchunks : (answer? (analyze {} theTrain railway)).map (·.chunks) = some [[⟨2, 1⟩]] := by decide +kernel
  obtain ⟨results, hresults, hmap⟩ := Option.map_eq_some_iff.1 hbatch
  obtain ⟨t, hresults⟩ := exists_of_answer? hresults
  obtain ⟨x, _, rfl, hfirst, hrest⟩ := List.map_eq_cons_iff.1 hmap
  obtain ⟨⟨_, outcome⟩, _, rfl, hlast, hnil⟩ := List.map_eq_cons_iff.1 hrest
  obtain rfl := List.map_eq_nil_iff.1 hnil
  obtain ⟨rfl, houtcome⟩ := Prod.mk.inj hlast
  have hmem : (2, outcome) ∈ [x, (2, outcome)] := List.mem_cons_of_mem _ List.mem_cons_self
  obtain ⟨-, -, hindependent⟩ := analyzeBatch_independent railway ⟨_, rfl⟩ {} [theTrain, theTrainAt, theTrain]
  obtain ⟨alone, s', before, s₀, t', halone, hbefore, hlater, hsame⟩ :=
    (hindependent _ t hresults 2 theTrain rfl).2 outcome hmem
  rw [halone] at hchunks
  change analyzeBatch {} [theTrain, theTrainAt] railway = _ at hbefore
  rw [hbefore] at hhandles
  refine ⟨by decide +kernel, _, t, outcome, alone, s', before, s₀, t', hresults, ?_, hmem, halone, ?_, hbefore,
    hhandles, hlater, houtcome, hsame⟩
  · rw [List.map_cons, (Prod.mk.inj hfirst).1]
    rfl
  · exact Option.some.inj hchunks

/-- The first sentence alone is answered, and the batch is not. -/
theorem overflow_theTrain :
    (∃ outcome t, analyze { maxIterations := 2 ^ 63 } [⟨[⟨"train", "train/NOUN"⟩], none⟩] railway = .ok outcome t) ∧
    ∃ t, analyzeBatch { maxIterations := 2 ^ 63 } [[⟨[⟨"train", "train/NOUN"⟩], none⟩], theTrain] railway =
      .error .overflow t := by
  have halone : (answer? (analyze { maxIterations := 2 ^ 63 } [⟨[⟨"train", "train/NOUN"⟩], none⟩] railway)).map
      (·.stop) = some .noGrowth := by decide +kernel
  have hbatch : Outcome.error? (analyzeBatch { maxIterations := 2 ^ 63 }
      [[⟨[⟨"train", "train/NOUN"⟩], none⟩], theTrain] railway) = some .overflow := by decide +kernel
  obtain ⟨outcome, houtcome, -⟩ := Option.map_eq_some_iff.1 halone
  obtain ⟨t, ht⟩ := exists_of_answer? houtcome
  exact ⟨⟨outcome, t, ht⟩, _, Outcome.eq_of_error? hbatch⟩

end Analysis

end MeaningGraph
