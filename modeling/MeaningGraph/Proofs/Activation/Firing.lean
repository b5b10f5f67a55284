/-
# Firing is a complete search

A semantic rule is tried on the arrangements of the active machines, the longest first.  All its checks are made before
it first acts, and each act comes upon what the acts before have left:

    arrangements ── check, check, … ──▶ candidates ── act, act, … ──▶ the first that is answered ──▶ merge

Still it is as if each sequence were checked and acted on alone, on the lexicon that the search started with:

| what comes in between | why it makes no difference |
| :-- | :-- |
| sequences that are passed over | they begin as one that was refused, so their checks would refuse them |
| a check | it moves an automaton, which the next check starts afresh |
| an act that answers nothing | it has changed nothing |
| merging what was answered | that is active by then, so nothing is left to be merged |

So the rule fires exactly when there is a sequence that it would take, it takes the foremost of these, and when there
is none the lexicon is as before (`fire_takes_foremost`).  Definitions may be stale: no act looks at one.
-/
import MeaningGraph.Proofs.Activation.Success
import MeaningGraph.Proofs.Activation.WorkingSet
import MeaningGraph.Proofs.Arrangement
import MeaningGraph.Proofs.Twin.Expand

namespace MeaningGraph

open Lexicon (Gains InUse)
open Outcome (bind_eq_of_ok exists_of_answer?)

variable {c d : Construction} {l l' : Lexicon} {seq other : List MachineId} {seqs : List (List MachineId)}
  {answer : Option (List MachineId)} {t : Construction × Lexicon} {n : Nat}

/-! ## The order of the search -/

/-- What the search is over: different active machines, at least one and at most `n`. -/
structure Choice (n : Nat) (l : Lexicon) (seq : List MachineId) : Prop where
  nodup : seq.Nodup
  active : seq ⊆ l.order
  pos : 1 ≤ seq.length
  le : seq.length ≤ n

theorem mem_arrangementsUpTo_order_iff (hnodup : l.order.Nodup) :
    seq ∈ arrangementsUpTo l.order n ↔ Choice n l seq := by
  constructor
  · intro h
    obtain ⟨hpos, hle, hsub⟩ := mem_arrangementsUpTo_iff.1 h
    have hactive : seq ⊆ l.order := hsub.subset
    obtain ⟨part, hperm, hpart⟩ := hsub
    exact ⟨hperm.nodup_iff.1 (hnodup.sublist hpart), hactive, hpos, hle⟩
  · exact fun h => mem_arrangementsUpTo_of_nodup h.nodup h.active h.pos h.le

namespace Construction

/-- The check accepts the sequence, and the act answers something. -/
def Applies (c : Construction) (l : Lexicon) (seq : List MachineId) : Prop :=
  c.Answers l seq true ∧ ∃ new t, Rule.act seq (c, l) = .ok (some new) t

theorem applies_of_answer? (new : List MachineId) (hcheck : Outcome.answer? (Rule.checkNow seq (c, l)) = some true)
    (hact : Outcome.answer? (Rule.act seq (c, l)) = some (some new)) : c.Applies l seq := by
  obtain ⟨s, hcheck⟩ := exists_of_answer? hcheck
  obtain ⟨t, hact⟩ := exists_of_answer? hact
  exact ⟨answers_of_ok hcheck, new, t, hact⟩

/-- Of the sequences that the rule applies to, this is the first. -/
structure Foremost (n : Nat) (c : Construction) (l : Lexicon) (seq : List MachineId) : Prop where
  choice : Choice n l seq
  applies : c.Applies l seq
  first : ∀ other, Choice n l other → c.Applies l other → other = seq ∨ Precedes l.order seq other

theorem Foremost.eq (h : Foremost n c l seq) (h' : Foremost n c l other) : other = seq := by
  rcases h.first other h'.choice h'.applies with heq | hbefore
  · exact heq
  · rcases h'.first seq h.choice h.applies with heq | hafter
    · exact heq.symm
    · exact absurd hafter hbefore.asymm

/-! ## One act -/

/-- A rule that is no matrix acts by its program alone, and the act leaves it as it is. -/
theorem act_congr (hc : Rule.kind c ≠ .avm) (h : c.program = d.program)
    (hact : Rule.act seq (c, l) = .ok answer t) : Rule.act seq (d, l) = .ok answer (d, t.2) := by
  cases c with
  | avm r => exact absurd rfl hc
  | append r =>
    cases d <;> cases h
    rw [act_append] at hact ⊢
    obtain ⟨l', hown, rfl⟩ := Rule.onPart_ok hact
    exact Rule.onPart_of_ok hown
  | trigger r =>
    cases d <;> cases h
    rw [act_trigger] at hact ⊢
    obtain ⟨l', hown, rfl⟩ := Rule.onPart_ok hact
    exact Rule.onPart_of_ok hown
  | verb r =>
    obtain ⟨r', rfl, hrest⟩ := exists_verb_of_program h.symm
    rw [act_verb] at hact ⊢
    obtain ⟨l', hown, rfl⟩ := Rule.onPart_ok hact
    rw [VerbRule.act_of_rest hrest]
    exact Rule.onPart_of_ok hown

/-- The rule acts on the sequence, and merging what it answers has nothing left to do. -/
def Fires (c : Construction) (l : Lexicon) (seq : List MachineId) (l' : Lexicon) : Prop :=
  ∃ new, Rule.act seq (c, l) = .ok (some new) (c, l') ∧ Lexicon.mergeActive new l' = .ok new l'

theorem Fires.congr (h : Fires c l seq l') (hc : Rule.kind c ≠ .avm) (hprogram : c.program = d.program) :
    Fires d l seq l' := by
  obtain ⟨new, hact, hmerge⟩ := h
  exact ⟨new, act_congr hc hprogram hact, hmerge⟩

/-- An act on active machines that fit answers nothing and changes nothing, or the rule fires. -/
theorem Fits.act_cases (h : c.Fits l seq) (hc : Rule.kind c ≠ .avm) (hl : l.InUse) (hseq : seq ⊆ l.order) :
    Rule.act seq (c, l) = .ok none (c, l) ∨ ∃ l', Fires c l seq l' := by
  obtain ⟨answer, t, hact, -, -⟩ := h.attains_act hl.sound hl.filed hl.views.listed hl.live
  cases answer with
  | none =>
    obtain rfl := eq_of_act_none hc hact
    exact .inl hact
  | some new =>
    have hown : Rule.act seq (c, l) = .ok (some new) (c, t.2) := act_congr hc rfl hact
    have hgains : Gains l t.2 := by
      have hstate := act_lexicon Lexicon.admits_gains seq c l
      rwa [hown] at hstate
    have hnew : new ⊆ t.2.order := subset_order_of_act hl hseq hown
    refine .inr ⟨t.2, new, hown, Lexicon.mergeActive_of_active fun id hid => ?_⟩
    exact (hgains.inUse hl).isActive (hnew hid)

end Construction

namespace Activation

open Construction

/-! ## The search -/

/-- The search ends at the first sequence on which the rule fires.  The induction is on the sequences: each finds the
lexicon that the first one found. -/
theorem fireFirst_cases (hc : Rule.kind c ≠ .avm) (hl : l.InUse)
    (hseqs : ∀ seq ∈ seqs, c.Fits l seq ∧ seq ⊆ l.order) :
    (fireFirst seqs (c, l) = .ok false (c, l) ∧ ∀ seq ∈ seqs, Rule.act seq (c, l) = .ok none (c, l)) ∨
    ∃ before seq after l', seqs = before ++ seq :: after ∧
      (∀ other ∈ before, Rule.act other (c, l) = .ok none (c, l)) ∧ Fires c l seq l' ∧
      fireFirst seqs (c, l) = .ok true (c, l') := by
  induction seqs with
  | nil => exact .inl ⟨rfl, fun seq hseq => (List.not_mem_nil hseq).elim⟩
  | cons seq seqs ih =>
    obtain ⟨⟨hfits, hseq⟩, hseqs⟩ := List.forall_mem_cons.1 hseqs
    rcases hfits.act_cases hc hl hseq with hnone | ⟨l', new, hact, hmerge⟩
    · have hstep : fireFirst (seq :: seqs) (c, l) = fireFirst seqs (c, l) := bind_eq_of_ok hnone
      rw [hstep]
      rcases ih hseqs with ⟨hrun, hall⟩ | ⟨before, first, after, l', rfl, hbefore, hfires, hrun⟩
      · exact .inl ⟨hrun, List.forall_mem_cons.2 ⟨hnone, hall⟩⟩
      · exact .inr ⟨seq :: before, first, after, l', rfl, List.forall_mem_cons.2 ⟨hnone, hbefore⟩, hfires, hrun⟩
    · refine .inr ⟨[], seq, seqs, l', rfl, fun _ h => (List.not_mem_nil h).elim, ⟨new, hact, hmerge⟩, ?_⟩
      exact (bind_eq_of_ok hact).trans (bind_eq_of_ok (Rule.onPart_of_ok hmerge))

/-- The candidates are the choices that the check accepts, in the order of the search. -/
theorem exists_candidates (hc : c.Built) (hl : l.InUse) (n : Nat) :
    ∃ out d, candidates [] none (arrangementsUpTo l.order n) (c, l) = .ok out (d, l) ∧ d.program = c.program ∧
      (∀ seq, seq ∈ out ↔ Choice n l seq ∧ c.Answers l seq true) ∧ out.Pairwise (Precedes l.order) ∧
      ∀ seq ∈ out, d.Fits l seq := by
  have hchoice : ∀ seq, seq ∈ arrangementsUpTo l.order n ↔ Choice n l seq := fun seq =>
    mem_arrangementsUpTo_order_iff hl.views.nodup
  have hlive : ∀ seq ∈ arrangementsUpTo l.order n, ∀ id ∈ seq, l.graph.contains id = true := fun seq hseq id hid =>
    hl.live id (((hchoice seq).1 hseq).active hid)
  have hfound : Outcome.Attains Onward (fun out t => t.2 = l ∧ ∀ seq ∈ out, t.1.Fits l seq) (c, l)
      (candidates [] none (arrangementsUpTo l.order n) (c, l)) :=
    attains_candidates hc.wellMade (fun _ h => (List.not_mem_nil h).elim) hlive
  obtain ⟨out, ⟨d, _⟩, hcandidates, -, rfl, hfits⟩ := hfound
  obtain ⟨-, hprogram, hanswers, rfl⟩ := candidates_ok hc.kind_ne_avm (fun b hb => by cases hb) hcandidates
  refine ⟨_, d, hcandidates, hprogram, fun seq => ?_, ?_, hfits⟩
  · rw [List.reverse_nil, List.nil_append, List.mem_filter, hchoice]
    refine and_congr_right fun hseq => ⟨fun haccepts => ?_, Answers.accepts_eq⟩
    exact haccepts ▸ hanswers seq ((hchoice seq).2 hseq)
  · rw [List.reverse_nil, List.nil_append]
    exact (pairwise_arrangementsUpTo hl.views.nodup n).filter _

theorem foremost_of_candidates {before after : List (List MachineId)}
    (hmem : ∀ other, other ∈ before ++ seq :: after ↔ Choice n l other ∧ c.Answers l other true)
    (hordered : (before ++ seq :: after).Pairwise (Precedes l.order))
    (hbefore : ∀ other ∈ before, ¬ c.Applies l other) (happlies : c.Applies l seq) : Foremost n c l seq := by
  have hafter : ∀ other ∈ after, Precedes l.order seq other :=
    (List.pairwise_cons.1 (List.pairwise_append.1 hordered).2.1).1
  refine ⟨((hmem seq).1 (List.mem_append_right _ List.mem_cons_self)).1, happlies, fun other hother hother' => ?_⟩
  rcases List.mem_append.1 ((hmem other).2 ⟨hother, hother'.1⟩) with hfirst | hlater
  · exact absurd hother' (hbefore other hfirst)
  · exact (List.mem_cons.1 hlater).imp_right (hafter other)

/-- In every lexicon that can be reached and whose active machines are live, a rule that is tried answers.  It fires
exactly when it applies to some sequence of different active machines, not longer than allowed.  Then one of these is
the foremost, the lexicon is what the act on it alone has left, and merging what that answered leaves it so.  A rule
that does not fire has changed nothing. -/
theorem fire_takes_foremost (hc : c.Built) (h : l.Reachable)
    (hlive : ∀ id ∈ l.order, l.graph.contains id = true) (n : Nat) :
    ∃ fired c' l', fire n (c, l) = .ok fired (c', l') ∧ c'.program = c.program ∧
      (fired = true ↔ ∃ seq, Choice n l seq ∧ c.Applies l seq) ∧
      (fired = true → ∃ seq, (∀ other, Foremost n c l other ↔ other = seq) ∧ Fires c l seq l') ∧
      (fired = false → l' = l) := by
  have hl : l.InUse := h.inUse hlive
  obtain ⟨out, d, hcandidates, hprogram, hmem, hordered, hfits⟩ := exists_candidates hc hl n
  have hkind : Rule.kind d ≠ .avm := kind_eq_of_program hprogram ▸ hc.kind_ne_avm
  have hseqs : ∀ seq ∈ out, d.Fits l seq ∧ seq ⊆ l.order := fun seq hseq =>
    ⟨hfits seq hseq, ((hmem seq).1 hseq).1.active⟩
  -- what the rule left by the checks does not act on, the rule does not apply to
  have hidle : ∀ seq, Rule.act seq (d, l) = .ok none (d, l) → ¬ c.Applies l seq := by
    rintro seq hnone ⟨-, new, t, hact⟩
    rw [act_congr hkind hprogram hnone] at hact
    cases hact
  rcases fireFirst_cases hkind hl hseqs with ⟨hrun, hall⟩ | ⟨before, seq, after, l', rfl, hbefore, hfires, hrun⟩
  · refine ⟨false, d, l, (bind_eq_of_ok hcandidates).trans hrun, hprogram, ?_, (nomatch ·), fun _ => rfl⟩
    refine ⟨(nomatch ·), ?_⟩
    rintro ⟨seq, hchoice, happlies⟩
    exact absurd happlies (hidle seq (hall seq ((hmem seq).2 ⟨hchoice, happlies.1⟩)))
  · have hfires : Fires c l seq l' := hfires.congr hkind hprogram
    obtain ⟨hchoice, hanswer⟩ := (hmem seq).1 (List.mem_append_right _ List.mem_cons_self)
    have happlies : c.Applies l seq := by
      obtain ⟨new, hact, -⟩ := hfires
      exact ⟨hanswer, new, _, hact⟩
    have hforemost : Foremost n c l seq :=
      foremost_of_candidates hmem hordered (fun other hother => hidle other (hbefore other hother)) happlies
    refine ⟨true, d, l', (bind_eq_of_ok hcandidates).trans hrun, hprogram, ?_, fun _ => ⟨seq, ?_, hfires⟩, (nomatch ·)⟩
    · exact ⟨fun _ => ⟨seq, hchoice, happlies⟩, fun _ => rfl⟩
    · intro other
      refine ⟨hforemost.eq, ?_⟩
      rintro rfl
      exact hforemost

/-- The rule applies to home and town alone, but the token stands before them in a longer sequence. -/
theorem fire_takes_foremost_trip :
    Built (verb VerbRule.going) ∧ trip.Reachable ∧ (∀ id ∈ trip.order, trip.graph.contains id = true) ∧
    (verb VerbRule.going).Applies trip [⟨4, 1⟩, ⟨5, 1⟩] ∧
    ∃ c' l' seq, fire 3 (verb VerbRule.going, trip) = .ok true (c', l') ∧ seq.length = 3 ∧
      Foremost 3 (verb VerbRule.going) trip seq ∧ Fires (verb VerbRule.going) trip seq l' := by
  have hrule : VerbRule.ofLexicon? VerbRule.journey "go" .default = .ok (some VerbRule.going) := rfl
  have hbuilt : Built (verb VerbRule.going) := .verb hrule []
  have hreach : trip.Reachable := ⟨_, rfl⟩
  have hlive : ∀ id ∈ trip.order, trip.graph.contains id = true := by decide +kernel
  have hshort : (verb VerbRule.going).Applies trip [⟨4, 1⟩, ⟨5, 1⟩] :=
    applies_of_answer? [⟨3, 1⟩] (by decide +kernel) (by decide +kernel)
  have hlong : (verb VerbRule.going).Applies trip [⟨3, 1⟩, ⟨4, 1⟩, ⟨5, 1⟩] :=
    applies_of_answer? [⟨3, 1⟩] (by decide +kernel) (by decide +kernel)
  have hchoice : Choice 3 trip [⟨3, 1⟩, ⟨4, 1⟩, ⟨5, 1⟩] :=
    ⟨by decide, by decide +kernel, by decide, by decide⟩
  obtain ⟨fired, c', l', hfire, -, hiff, htrue, -⟩ := fire_takes_foremost hbuilt hreach hlive 3
  obtain rfl : fired = true := hiff.2 ⟨_, hchoice, hlong⟩
  obtain ⟨seq, hunique, hfires⟩ := htrue rfl
  have hforemost := (hunique seq).2 rfl
  refine ⟨hbuilt, hreach, hlive, hshort, c', l', seq, hfire, ?_, hforemost, hfires⟩
  have hle := hforemost.choice.le
  rcases hforemost.first _ hchoice hlong with rfl | hlonger | ⟨hlength, -⟩
  · rfl
  · exact absurd hle (Nat.not_le_of_lt hlonger)
  · exact hlength

end Activation

end MeaningGraph
