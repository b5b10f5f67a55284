/-
# Spreading activation cannot fail

From a ready lexicon the main loop answers, whatever the rules are, as long as the automaton of each verb's rule
is the one that was built for it.  Everything in the loop is answered for in one of three ways:

| step | why it answers |
| :-- | :-- |
| expand, activate, merge | the lexicon is ready |
| check | no automaton has a fault |
| act | the check accepted the sequence, so its machines can be given arguments |

The acts of a pass come after its checks, and so on a later lexicon than that which was checked.  But an act that
answers nothing has changed nothing, and the first that answers something ends the pass.

`Forward` is what all steps do to the lexicon and to the rules: changes, and no other program.
-/
import MeaningGraph.Proofs.Activation.Settled
import MeaningGraph.Proofs.Chunk
import MeaningGraph.Proofs.Lexicon.Ready
import MeaningGraph.Proofs.Rule.Linking
import MeaningGraph.Proofs.Rule.Spent

namespace MeaningGraph

open Lexicon (Changes Gains)
open Outcome

variable {α : Type} {c d : Construction} {l l' : Lexicon} {g : Graph} {seq : List MachineId}
  {seqs : List (List MachineId)}

/-- Changes lead from the lexicon of one state to that of another, and the rules have kept their programs. -/
structure Forward {τ π : Type} (lexicon : τ → Lexicon) (program : τ → π) (s t : τ) : Prop where
  lexicon : Changes (lexicon s) (lexicon t)
  program : program t = program s

section Forward

variable {τ π : Type} {lexicon : τ → Lexicon} {program : τ → π}

instance : Std.Refl (Forward lexicon program) where
  refl s := ⟨refl_of Changes (lexicon s), rfl⟩

instance : IsTrans τ (Forward lexicon program) where
  trans _ _ _ h h' := ⟨trans_of Changes h.lexicon h'.lexicon, h'.program.trans h.program⟩

end Forward

/-! ## One rule beside a lexicon -/

namespace VerbRule

/-- The automaton is the cube of the rule's own arguments, wherever it stands. -/
def Cubic (r : VerbRule) : Prop :=
  r.rest = rest ⟨r.verb, r.control, r.arguments, hypercube r.verb r.arguments⟩

theorem cubic_of_rest {r r' : VerbRule} (h : r'.rest = r.rest) (hr : r.Cubic) : r'.Cubic := by
  change r'.rest = rest ⟨r'.rest.verb, r'.rest.control, r'.rest.arguments,
    hypercube r'.rest.verb r'.rest.arguments⟩
  rw [h]
  exact hr

theorem cubic_afterChecks {name : String} {cases : DeepCases} {r : VerbRule}
    (hr : ofLexicon? l name cases = .ok (some r)) (checks : List (Graph × List MachineId)) :
    (r.afterChecks checks).Cubic := by
  obtain ⟨-, definition, m, -, -, heq⟩ := ofLexicon?_ok hr
  have hrest : r.rest = rest ⟨name, r.control, r.arguments, hypercube name r.arguments⟩ := by
    rw [heq]
  have hname : r.verb = name := congrArg VerbRule.verb heq
  refine cubic_of_rest (rest_afterChecks checks hrest) ?_
  rw [Cubic, hname]
  exact hrest

end VerbRule

namespace Construction

/-- One rule beside a lexicon goes on. -/
abbrev Onward : Construction × Lexicon → Construction × Lexicon → Prop :=
  Forward Prod.snd fun s => s.1.program

/-- A verb's rule has the automaton that was built for it. -/
def WellMade (c : Construction) : Prop :=
  ∀ r, c = .verb r → r.Cubic

/-- The machines are live, and for a verb's rule those beside the token can be given arguments. -/
structure Fits (c : Construction) (l : Lexicon) (seq : List MachineId) : Prop where
  live : ∀ id ∈ seq, l.graph.contains id = true
  gives : ∀ r, c = .verb r → ∃ slots, VerbRule.Gives r.arguments l.graph (r.others l.graph seq) slots

theorem Built.wellMade (h : c.Built) : c.WellMade := by
  rintro r rfl
  cases h with
  | verb hr checks => exact VerbRule.cubic_afterChecks hr checks

theorem WellMade.congr (h : c.WellMade) (hprogram : d.program = c.program) : d.WellMade := by
  rintro r rfl
  obtain ⟨r', rfl, hrest⟩ := exists_verb_of_program hprogram.symm
  exact VerbRule.cubic_of_rest hrest.symm (h r' rfl)

theorem Fits.congr (h : c.Fits l seq) (hprogram : d.program = c.program) : d.Fits l seq := by
  refine ⟨h.live, ?_⟩
  rintro r rfl
  obtain ⟨r', rfl, hrest⟩ := exists_verb_of_program hprogram.symm
  have hgives := h.gives r' rfl
  change ∃ slots, VerbRule.Gives r'.rest.arguments l.graph (r'.rest.others l.graph seq) slots at hgives
  rw [hrest] at hgives
  exact hgives

/-- A check answers and leaves the lexicon alone; what it accepts fits. -/
theorem WellMade.attains_checkNow (h : c.WellMade) (hlive : ∀ id ∈ seq, l.graph.contains id = true) :
    Attains Onward (fun accepted t => t.2 = l ∧ (accepted = true → t.1.Fits l seq)) (c, l)
      (Rule.checkNow seq (c, l)) := by
  have hstays := refl_of Changes l
  cases c with
  | append r => exact ⟨_, _, rfl, ⟨hstays, rfl⟩, rfl, fun _ => ⟨hlive, fun _ heq => nomatch heq⟩⟩
  | trigger r => exact ⟨_, _, rfl, ⟨hstays, rfl⟩, rfl, fun _ => ⟨hlive, fun _ heq => nomatch heq⟩⟩
  | avm r => exact ⟨_, _, rfl, ⟨hstays, rfl⟩, rfl, fun _ => ⟨hlive, fun _ heq => nomatch heq⟩⟩
  | verb r =>
    obtain ⟨accepted, r', hcheck, haccepted, hrest⟩ := VerbRule.check_of_rest (h r rfl) l.graph seq
    have hnow : Rule.checkNow seq (verb r, l) = .ok accepted (verb r', l) :=
      Rule.onPart_of_ok (Rule.onPart_of_ok hcheck)
    refine ⟨accepted, _, hnow, ⟨hstays, congrArg verb hrest⟩, rfl, fun hyes => ?_⟩
    have hfits : (verb r).Fits l seq := by
      refine ⟨hlive, ?_⟩
      rintro _ ⟨⟩
      exact VerbRule.exists_gives_of_recognised (haccepted.1 hyes)
    exact hfits.congr (congrArg verb hrest)

end Construction

/-! ## The acts -/

/-- What an act answers is live; where it answers nothing the lexicon is as it was. -/
structure Made (l : Lexicon) (answer : Option (List MachineId)) (l' : Lexicon) : Prop where
  idle : answer = none → l' = l
  live : ∀ new, answer = some new → ∀ id ∈ new, l'.graph.contains id = true

theorem made_one {id : MachineId} (hid : l'.graph.contains id = true) : Made l (some [id]) l' := by
  refine ⟨(nomatch ·), ?_⟩
  rintro _ ⟨⟩
  exact List.forall_mem_singleton.2 hid

theorem attains_idle {r : EStateM.Result Error Lexicon (Option (List MachineId))} (h : r = .ok none l) :
    Attains Gains (Made l) l r :=
  ⟨none, l, h, refl_of Gains l, fun _ => rfl, fun _ hnew => nomatch hnew⟩

theorem AppendRule.attains_act (r : AppendRule) (hl : l.Sound) (hlive : ∀ id ∈ seq, l.graph.contains id = true) :
    Attains Gains (Made l) l (r.act seq l) := by
  by_cases hpair : ∃ first second, seq = [first, second]
  · obtain ⟨first, second, rfl⟩ := hpair
    rw [act_pair]
    split
    · have hroles : (r.roles first second).2 ∈ [first, second] := by
        unfold roles
        cases r.direction <;> simp
      have hhead := hlive _ hroles
      have hlink := Lexicon.attains_append hhead (hlive _ (r.roles_mem first second)) r.partition
      exact hlink.bind fun _ l₁ h₁ _ => .pure (made_one (h₁.changes.contains hl hhead))
    · exact attains_idle rfl
  · exact attains_idle
      (act_of_not_lastCheck (lastCheck_of_ne_pair fun first second hseq => hpair ⟨first, second, hseq⟩))

theorem VerbRule.attains_act {r : VerbRule} {slots : List Nat} (hl : l.Sound) (hfiled : l.Filed)
    (hlisted : l.Listed) (hactive : ∀ id ∈ l.order, l.graph.contains id = true)
    (hlive : ∀ id ∈ seq, l.graph.contains id = true)
    (hgives : Gives r.arguments l.graph (r.others l.graph seq) slots) :
    Attains Gains (Made l) l (r.act seq l) := by
  cases hlast : r.lastCheck l.graph seq with
  | false => exact attains_idle (act_of_not_lastCheck hlast)
  | true =>
    cases htarget : r.target? l seq with
    | none => exact attains_idle (act_of_target?_none hlive htarget)
    | some verb =>
      have hverb := Graph.contains_of_name? (name?_of_target? hfiled hlisted hactive htarget).2
      obtain ⟨l', hact, slots, g, -, -, rfl, hjoined⟩ :=
        act_of_gives hl.graph hlive hlast htarget hverb hgives
      exact attains_of_within (r.within_act Lexicon.admits_gains seq) hact
        (made_one ((hjoined.contains verb).trans hverb))

namespace TriggerRule

theorem attains_hold {plugin : MachineId} (hl : l.Sound) (hplugin : l.graph.contains plugin = true)
    (hlive : ∀ id ∈ seq, l.graph.contains id = true) :
    Attains Gains (fun _ _ => True) l (hold plugin seq l) := by
  induction seq generalizing l with
  | nil => exact .pure trivial
  | cons id ids ih =>
    obtain ⟨hid, hids⟩ := List.forall_mem_cons.1 hlive
    refine (Lexicon.attains_append hplugin hid 0).bind fun _ l₁ h₁ _ => ?_
    exact ih (h₁.changes.evolves hl).sound (h₁.changes.contains hl hplugin) fun other hother =>
      h₁.changes.contains hl (hids other hother)

theorem attains_act (r : TriggerRule) (hl : l.Sound) (hlive : ∀ id ∈ seq, l.graph.contains id = true) :
    Attains Gains (Made l) l (r.act seq l) := by
  cases hlast : r.lastCheck l.graph seq with
  | false => exact attains_idle (act_of_not_lastCheck hlast)
  | true =>
    rw [act_eq, Lexicon.get_bind, if_pos hlast]
    refine (hl.attains_create r.name (some (.plugin r.call))).bind fun plugin l₁ h₁ hplugin => ?_
    have hl₁ := (h₁.changes.evolves hl).sound
    have hlive₁ : ∀ id ∈ seq, l₁.graph.contains id = true := fun id hid => h₁.changes.contains hl (hlive id hid)
    refine (attains_hold hl₁ hplugin hlive₁).bind fun _ l₂ h₂ _ => ?_
    have hplugin₂ := h₂.changes.contains hl₁ hplugin
    refine (Lexicon.attains_addActive (List.forall_mem_singleton.2 hplugin₂)).bind fun _ l₃ h₃ _ => ?_
    exact .pure (made_one (h₃.changes.contains (h₂.changes.evolves hl₁).sound hplugin₂))

end TriggerRule

theorem AvmRule.subset_act (r : AvmRule) {new : List MachineId} (h : (r.act g seq).1 = some new) : new ⊆ seq := by
  unfold act at h
  split at h
  · simp only [Option.ite_none_left_eq_some, Option.some.injEq] at h
    exact h.2 ▸ List.Subset.refl _
  · cases h

/-! ## The passes over one rule -/

namespace Construction

/-- An act on a sequence that fits answers, whether or not the definitions stand. -/
theorem Fits.attains_act (h : c.Fits l seq) (hl : l.Sound) (hfiled : l.Filed) (hlisted : l.Listed)
    (hactive : ∀ id ∈ l.order, l.graph.contains id = true) :
    Attains Onward (fun answer t => Made l answer t.2) (c, l) (Rule.act seq (c, l)) := by
  have hlift : ∀ {x : LexiconM (Option (List MachineId))},
      Rule.act seq (c, l) = Rule.onPart (Prod.mk c) x l → Attains Gains (Made l) l (x l) →
      Attains Onward (fun answer t => Made l answer t.2) (c, l) (Rule.act seq (c, l)) := by
    rintro x hact ⟨answer, l', hx, hgains, hmade⟩
    rw [hact]
    exact ⟨answer, (c, l'), Rule.onPart_of_ok hx, ⟨hgains.changes, rfl⟩, hmade⟩
  cases c with
  | append r => exact hlift (act_append r) (r.attains_act hl h.live)
  | verb r =>
    obtain ⟨slots, hgives⟩ := h.gives r rfl
    exact hlift (act_verb r) (VerbRule.attains_act hl hfiled hlisted hactive h.live hgives)
  | trigger r => exact hlift (act_trigger r) (r.attains_act hl h.live)
  | avm r =>
    have hprogram := program_act seq (avm r) l
    rw [act_avm] at hprogram
    refine ⟨_, _, act_avm r, ⟨refl_of Changes l, hprogram⟩, fun _ => rfl, fun new hnew id hid => ?_⟩
    exact h.live id (r.subset_act hnew hid)

theorem attains_mergeActive {ids : List MachineId} (hl : l.Ready)
    (hids : ∀ id ∈ ids, l.graph.contains id = true) :
    Attains Onward (fun _ _ => True) (c, l) (Rule.onlyLexicon (Lexicon.mergeActive ids) (c, l)) := by
  obtain ⟨_, l', hmerge, hchanges, -⟩ := hl.attains_mergeActive hids
  exact ⟨_, (c, l'), Rule.onPart_of_ok hmerge, ⟨hchanges, rfl⟩, trivial⟩

end Construction

namespace Activation

open Construction (Onward WellMade Fits)

variable {kept : List (List MachineId)} {refused : Option (List MachineId)} {ids : List MachineId}

theorem attains_candidates (hc : c.WellMade) (hkept : ∀ seq ∈ kept, c.Fits l seq)
    (hlive : ∀ seq ∈ seqs, ∀ id ∈ seq, l.graph.contains id = true) :
    Attains Onward (fun out t => t.2 = l ∧ ∀ seq ∈ out, t.1.Fits l seq) (c, l)
      (candidates kept refused seqs (c, l)) := by
  induction seqs generalizing c kept refused with
  | nil => exact .pure ⟨rfl, fun seq hseq => hkept seq (List.mem_reverse.1 hseq)⟩
  | cons seq seqs ih =>
    obtain ⟨hseq, hseqs⟩ := List.forall_mem_cons.1 hlive
    rw [candidates_cons]
    split
    · exact ih hc hkept hseqs
    · refine (hc.attains_checkNow hseq).bind ?_
      rintro accepted ⟨d, _⟩ hd ⟨rfl, hfits⟩
      have hmade : d.WellMade := hc.congr hd.program
      have hkept' : ∀ seq ∈ kept, d.Fits _ seq := fun other hother => (hkept other hother).congr hd.program
      cases accepted with
      | true => exact ih hmade (List.forall_mem_cons.2 ⟨hfits rfl, hkept'⟩) hseqs
      | false => exact ih hmade hkept' hseqs

/-- The candidates are acted on one after the other; until one of them is replaced nothing changes. -/
theorem attains_fireFirst (hl : l.Ready) (hfits : ∀ seq ∈ seqs, c.Fits l seq) :
    Attains Onward (fun _ _ => True) (c, l) (fireFirst seqs (c, l)) := by
  induction seqs generalizing c with
  | nil => exact .pure trivial
  | cons seq seqs ih =>
    obtain ⟨hseq, hseqs⟩ := List.forall_mem_cons.1 hfits
    refine (hseq.attains_act hl.sound hl.filed hl.listed hl.live).bind ?_
    rintro answer ⟨d, l'⟩ hd hmade
    cases answer with
    | some new =>
      have hmerge := Construction.attains_mergeActive (c := d) (hd.lexicon.ready hl) (hmade.live new rfl)
      exact hmerge.bind fun _ _ _ _ => .pure trivial
    | none =>
      obtain rfl : l' = l := hmade.idle rfl
      exact ih fun other hother => (hseqs other hother).congr hd.program

theorem attains_fire (hc : c.WellMade) (hl : l.Ready) (maxArity : Nat) :
    Attains Onward (fun _ _ => True) (c, l) (fire maxArity (c, l)) := by
  have hlive : ∀ seq ∈ arrangementsUpTo l.order maxArity, ∀ id ∈ seq, l.graph.contains id = true := by
    intro seq hseq id hid
    exact hl.live id ((mem_arrangementsUpTo_iff.1 hseq).2.2.subset hid)
  refine (attains_candidates hc (fun _ h => (List.not_mem_nil h).elim) hlive).bind ?_
  rintro out ⟨d, _⟩ - ⟨rfl, hfits⟩
  exact attains_fireFirst hl hfits

theorem attains_offerEach (hc : c.WellMade) (hl : l.Ready) (hlive : ∀ id ∈ ids, l.graph.contains id = true) :
    Attains Onward (fun _ _ => True) (c, l) (offerEach ids (c, l)) := by
  induction ids generalizing c l with
  | nil => exact .pure trivial
  | cons id ids ih =>
    obtain ⟨hid, hids⟩ := List.forall_mem_cons.1 hlive
    refine (hc.attains_checkNow (List.forall_mem_singleton.2 hid)).bind ?_
    rintro accepted ⟨d, l⟩ hd ⟨rfl, hfits⟩
    have hmade : d.WellMade := hc.congr hd.program
    cases accepted with
    | false => exact ih hmade hl hids
    | true =>
      refine ((hfits rfl).attains_act hl.sound hl.filed hl.listed hl.live).bind ?_
      rintro _ ⟨e, l'⟩ he -
      exact ih (hmade.congr he.program) (he.lexicon.ready hl) fun other hother =>
        he.lexicon.contains hl.sound (hids other hother)

theorem attains_offerAll (hc : c.WellMade) (hl : l.Ready) :
    Attains Onward (fun _ _ => True) (c, l) (offerAll (c, l)) := by
  have hoffered := attains_offerEach hc hl hl.live
  exact hoffered.bind fun _ _ _ _ => .pure trivial

end Activation

namespace Chunk

open Construction (Onward)

theorem attains_reduceWith (hc : c.WellMade) (hl : l.Ready) (hlive : ∀ id ∈ seq, l.graph.contains id = true) :
    Attains Onward (fun answer t => ∀ new, answer = some new → ∀ id ∈ new, t.2.graph.contains id = true) (c, l)
      (reduceWith seq (c, l)) := by
  refine (hc.attains_checkNow hlive).bind ?_
  rintro accepted ⟨d, l⟩ - ⟨rfl, hfits⟩
  cases accepted with
  | false => exact .pure fun _ hnew => nomatch hnew
  | true =>
    refine ((hfits rfl).attains_act hl.sound hl.filed hl.listed hl.live).bind ?_
    rintro answer ⟨e, l'⟩ he hmade
    cases answer with
    | none => exact .pure fun _ hnew => nomatch hnew
    | some new =>
      refine .pure fun new' hnew => ?_
      split at hnew
      · cases hnew
      · cases hnew
        exact hmade.live new rfl

end Chunk

/-! ## Rules beside a lexicon -/

namespace RulesM

/-- Rules beside a lexicon go on. -/
abbrev Onward : List Construction × Lexicon → List Construction × Lexicon → Prop :=
  Forward Prod.snd fun s => s.1.map Construction.program

variable {rs rs' : List Construction}

theorem wellMade_of_onward (h : Onward (rs, l) (rs', l')) (hrs : ∀ c ∈ rs, c.WellMade) :
    ∀ c ∈ rs', c.WellMade := by
  intro c hc
  have hmem : c.program ∈ rs.map Construction.program := h.program ▸ List.mem_map_of_mem hc
  obtain ⟨d, hd, hprogram⟩ := List.mem_map.1 hmem
  exact (hrs d hd).congr hprogram.symm

theorem attains_each {f : EStateM Error (Construction × Lexicon) α}
    (hf : ∀ {c l}, c.WellMade → l.Ready → Attains Construction.Onward (fun _ _ => True) (c, l) (f (c, l)))
    (hrs : ∀ c ∈ rs, c.WellMade) (hl : l.Ready) :
    Attains Onward (fun _ _ => True) (rs, l) (each f (rs, l)) := by
  change Attains Onward _ (rs, l) (forEach f rs l)
  induction rs generalizing l with
  | nil => exact ⟨[], ([], l), rfl, refl_of Onward ([], l), trivial⟩
  | cons c rs ih =>
    obtain ⟨hc, hrs⟩ := List.forall_mem_cons.1 hrs
    obtain ⟨a, ⟨d, l₁⟩, hfirst, hd, -⟩ := hf hc hl
    obtain ⟨as, ⟨rs', l₂⟩, hrest, hrs', -⟩ := ih hrs (hd.lexicon.ready hl)
    refine ⟨a :: as, (d :: rs', l₂), forEach_cons_of_ok hfirst hrest, ⟨?_, ?_⟩, trivial⟩
    · exact trans_of Changes hd.lexicon hrs'.lexicon
    · exact congrArg₂ List.cons hd.program hrs'.program

theorem attains_first {f : EStateM Error (Construction × Lexicon) (Option α)} {Q : α → Lexicon → Prop}
    (hf : ∀ c l', c.WellMade → l'.Ready → Changes l l' →
      Attains Construction.Onward (fun answer t => ∀ a, answer = some a → Q a t.2) (c, l') (f (c, l')))
    (hrs : ∀ c ∈ rs, c.WellMade) (hl : l.Ready) :
    Attains Onward (fun answer t => ∀ a, answer = some a → Q a t.2) (rs, l) (first f (rs, l)) := by
  change Attains Onward _ (rs, l) (firstOf f rs l)
  induction rs generalizing l with
  | nil => exact ⟨none, ([], l), rfl, refl_of Onward ([], l), fun _ ha => nomatch ha⟩
  | cons c rs ih =>
    obtain ⟨hc, hrs⟩ := List.forall_mem_cons.1 hrs
    obtain ⟨answer, ⟨d, l₁⟩, hfirst, hd, hanswer⟩ := hf c l hc hl (refl_of Changes l)
    cases answer with
    | some a =>
      exact ⟨some a, (d :: rs, l₁), firstOf_cons_some hfirst, ⟨hd.lexicon, congrArg (· :: _) hd.program⟩, hanswer⟩
    | none =>
      obtain ⟨answer', ⟨rs', l₂⟩, hrest, hrs', hanswer'⟩ :=
        ih (fun e l' he hl' hchanges => hf e l' he hl' (trans_of Changes hd.lexicon hchanges)) hrs
          (hd.lexicon.ready hl)
      refine ⟨answer', (d :: rs', l₂), ?_, ⟨?_, ?_⟩, hanswer'⟩
      · rw [firstOf_cons_none hfirst, hrest]
        rfl
      · exact trans_of Changes hd.lexicon hrs'.lexicon
      · exact congrArg₂ List.cons hd.program hrs'.program

end RulesM

namespace Chunk

open RulesM (Onward)

variable {rs : List Construction} {ws : List (Window MachineId)} {chunk : List MachineId}

/-- The machines of a window are live. -/
def WindowLive (l : Lexicon) (w : Window MachineId) : Prop :=
  ∀ id ∈ w.before ++ w.inside ++ w.after, l.graph.contains id = true

theorem windowLive_of_all {w : Window MachineId} (hlive : ∀ id ∈ chunk, l.graph.contains id = true)
    (hw : w ∈ Window.all chunk) : WindowLive l w := by
  rw [WindowLive, ← (Window.mem_all.1 hw).2]
  exact hlive

theorem attains_reduceIn (hrs : ∀ c ∈ rs, c.WellMade) (hl : l.Ready) (hws : ∀ w ∈ ws, WindowLive l w) :
    Attains Onward (fun answer t => ∀ chunk, answer = some chunk → ∀ id ∈ chunk, t.2.graph.contains id = true)
      (rs, l) (reduceIn ws (rs, l)) := by
  induction ws generalizing rs l with
  | nil => exact .pure fun _ hchunk => nomatch hchunk
  | cons w ws ih =>
    obtain ⟨hw, hws⟩ := List.forall_mem_cons.1 hws
    have hinside : ∀ id ∈ w.inside, l.graph.contains id = true := fun id hid => hw id (by simp [hid])
    have hfirst := RulesM.attains_first (f := reduceWith w.inside)
      (Q := fun new l' => ∀ id ∈ new, l'.graph.contains id = true)
      (fun c l' hc hl' hchanges => attains_reduceWith hc hl' fun id hid =>
        hchanges.contains hl.sound (hinside id hid)) hrs hl
    refine hfirst.bind ?_
    rintro answer ⟨rs', l'⟩ hrs' hnew
    cases answer with
    | none =>
      refine ih (RulesM.wellMade_of_onward hrs' hrs) (hrs'.lexicon.ready hl) fun other hother id hid => ?_
      exact hrs'.lexicon.contains hl.sound (hws other hother id hid)
    | some new =>
      refine .pure ?_
      rintro _ ⟨⟩ id hid
      simp only [Window.splice, List.mem_append] at hid
      rcases hid with (hid | hid) | hid
      · exact hrs'.lexicon.contains hl.sound (hw id (by simp [hid]))
      · exact hnew new rfl id hid
      · exact hrs'.lexicon.contains hl.sound (hw id (by simp [hid]))

theorem attains_reduce (hrs : ∀ c ∈ rs, c.WellMade) (hl : l.Ready)
    (hlive : ∀ id ∈ chunk, l.graph.contains id = true) (budget : Nat) :
    Attains Onward (fun _ _ => True) (rs, l) (reduce budget chunk (rs, l)) := by
  induction budget generalizing rs l chunk with
  | zero => exact .pure trivial
  | succ budget ih =>
    refine (attains_reduceIn hrs hl fun w hw => windowLive_of_all hlive hw).bind ?_
    rintro answer ⟨rs', l'⟩ hrs' hchunk
    cases answer with
    | none => exact .pure trivial
    | some chunk' =>
      have hrest := ih (RulesM.wellMade_of_onward hrs' hrs) (hrs'.lexicon.ready hl) (hchunk chunk' rfl)
      exact hrest.bind fun _ _ _ _ => .pure trivial

theorem attains_reduceAll {chunks : List (List MachineId)} (hrs : ∀ c ∈ rs, c.WellMade) (hl : l.Ready)
    (hlive : ∀ chunk ∈ chunks, ∀ id ∈ chunk, l.graph.contains id = true) (budget : Nat) :
    Attains Onward (fun _ _ => True) (rs, l) (reduceAll budget chunks (rs, l)) := by
  induction chunks generalizing rs l with
  | nil => exact .pure trivial
  | cons chunk chunks ih =>
    obtain ⟨hchunk, hchunks⟩ := List.forall_mem_cons.1 hlive
    refine (attains_reduce hrs hl hchunk budget).bind ?_
    rintro _ ⟨rs', l'⟩ hrs' -
    have hrest := ih (RulesM.wellMade_of_onward hrs' hrs) (hrs'.lexicon.ready hl) fun other hother id hid =>
      hrs'.lexicon.contains hl.sound (hchunks other hother id hid)
    exact hrest.bind fun _ _ _ _ => .pure trivial

end Chunk

/-! ## Sessions -/

namespace Session

/-- A session goes on. -/
abbrev Onward : Session Construction → Session Construction → Prop :=
  Forward Session.lexicon fun s => s.rules.program

variable {s t : Session Construction}

/-- The lexicon is ready, and the rules are well made. -/
structure Ready (s : Session Construction) : Prop where
  lexicon : s.lexicon.Ready
  rules : ∀ k, ∀ c ∈ s.rules.ofKind k, c.WellMade

theorem Ready.onward (h : s.Ready) (hst : Onward s t) : t.Ready := by
  refine ⟨hst.lexicon.ready h.lexicon, fun k => ?_⟩
  have hprogram : t.rules.program.ofKind k = s.rules.program.ofKind k := congrArg (·.ofKind k) hst.program
  rw [RuleSet.ofKind_program, RuleSet.ofKind_program] at hprogram
  have honward : RulesM.Onward (s.rules.ofKind k, s.lexicon) (t.rules.ofKind k, t.lexicon) :=
    ⟨hst.lexicon, hprogram⟩
  exact RulesM.wellMade_of_onward honward (h.rules k)

theorem attains_onLexicon {x : LexiconM α} {Q : α → Lexicon → Prop}
    (h : Attains Gains Q s.lexicon (x s.lexicon)) :
    Attains Onward (fun a t => Q a t.lexicon) s (SessionM.onLexicon x s) := by
  obtain ⟨a, l', hx, hgains, hQ⟩ := h
  exact ⟨a, { s with lexicon := l' }, SessionM.onLexicon_of_ok hx, ⟨hgains.changes, rfl⟩, hQ⟩

theorem attains_onKind {x : RulesM Construction α} (k : RuleKind)
    (h : Attains RulesM.Onward (fun _ _ => True) (s.rules.ofKind k, s.lexicon)
      (x (s.rules.ofKind k, s.lexicon))) :
    Attains Onward (fun _ _ => True) s (SessionM.onKind k x s) := by
  obtain ⟨a, ⟨rs, l'⟩, hx, hrs, -⟩ := h
  refine ⟨a, ⟨l', s.rules.put rs k⟩, SessionM.onKind_of_ok hx, ⟨hrs.lexicon, RuleSet.program_put ?_⟩, trivial⟩
  rw [RuleSet.ofKind_program]
  exact hrs.program

end Session

namespace Activation

open Session (Onward attains_onLexicon attains_onKind)

variable {s : Session Construction}

theorem attains_expandEach {ids : List MachineId} (hl : l.Ready) (hids : ∀ id ∈ ids, id ∈ l.order) :
    Attains Gains (fun _ _ => True) l (expandEach ids l) := by
  induction ids generalizing l with
  | nil => exact .pure trivial
  | cons id ids ih =>
    obtain ⟨hid, hids⟩ := List.forall_mem_cons.1 hids
    refine (hl.attains_expand hid).bind fun _ l₁ h₁ _ => ?_
    exact ih (h₁.ready hl) fun other hother => h₁.mem_order (hids other hother)

theorem attains_expandPass (hl : l.Ready) : Attains Gains (fun _ _ => True) l (expandPass l) := by
  have hpass := attains_expandEach hl fun id (hid : id ∈ l.unexpanded) => List.mem_of_mem_filter hid
  exact hpass.bind fun _ _ _ _ => .pure trivial

theorem attains_iterate (hs : s.Ready) (o : Options) : Attains Onward (fun _ _ => True) s (iterate o s) := by
  rw [iterate_eq]
  refine (attains_onLexicon (attains_expandPass hs.lexicon)).bind fun _ s₁ h₁ _ => ?_
  have hs₁ := hs.onward h₁
  have hfire := RulesM.attains_each (f := fire o.maxArity) (fun hc hl => attains_fire hc hl o.maxArity)
    (hs₁.rules .semantic) hs₁.lexicon
  refine (attains_onKind .semantic hfire).bind fun _ s₂ h₂ _ => ?_
  have hs₂ := hs₁.onward h₂
  have hoffer := RulesM.attains_each (f := offerAll) attains_offerAll (hs₂.rules .avm) hs₂.lexicon
  refine (attains_onKind .avm hoffer).bind fun _ s₃ h₃ _ => ?_
  have hs₃ := hs₂.onward h₃
  refine (attains_onLexicon hs₃.lexicon.attains_activate).bind fun _ s₄ _ _ => ?_
  exact ⟨_, s₄, rfl, refl_of Onward s₄, trivial⟩

/-- The main loop answers, however often it iterates. -/
theorem attains_saturate (hs : s.Ready) (o : Options) (left number : Nat) (plugin : Option Nat) :
    Attains Onward (fun _ _ => True) s (saturate o left number plugin s) := by
  induction left generalizing s number plugin with
  | zero => exact .pure trivial
  | succ left ih =>
    rw [saturate_succ]
    refine (attains_iterate hs o).bind fun x s₁ h₁ _ => ?_
    simp only [proceed]
    cases stop? o x.1 x.2 (pluginAfter plugin number s₁.lexicon) number (decide (growth s < growth s₁)) with
    | some reason => exact .pure trivial
    | none => exact (ih (hs.onward h₁) _ _).bind fun _ _ _ _ => .pure trivial

/-- A run on chunks of live machines answers, if its budget fits in a word. -/
theorem attains_run {chunks : List (List MachineId)} {budget : Nat} (hs : s.Ready) (o : Options)
    (hbudget : reductionBudget o chunks = .ok budget)
    (hlive : ∀ chunk ∈ chunks, ∀ id ∈ chunk, s.lexicon.graph.contains id = true) :
    Attains Onward (fun _ _ => True) s (run o chunks s) := by
  rw [run_eq]
  refine (attains_onLexicon (Lexicon.attains_addActive_flatten hlive)).bind fun _ s₁ h₁ _ => ?_
  have hs₁ := hs.onward h₁
  rw [Outcome.bind_eq_of_ok (SessionM.onLexicon_ask_of_ok hbudget s₁)]
  have hreduce := Chunk.attains_reduceAll (hs₁.rules .chunk) hs₁.lexicon
    (fun chunk hchunk id hid => h₁.lexicon.contains hs.lexicon.sound (hlive chunk hchunk id hid)) budget
  refine (attains_onKind .chunk hreduce).bind fun _ s₂ h₂ _ => ?_
  refine (attains_saturate (hs₁.onward h₂) o o.maxIterations 1 none).bind fun _ s₃ _ _ => ?_
  exact ⟨_, s₃, rfl, refl_of Onward s₃, trivial⟩

end Activation

end MeaningGraph
