/-
# A run makes calls

Whatever an analysis does to the lexicon it does by calls: the links that rules draw, the machines they
make, expansion, activation, and the folding of what rules put in the place of their sequences.  So the
lexicon it leaves behind, also when it fails, is reached from the one it started with by a history, and
what every call keeps every analysis keeps.  The programs of the rules stay what they were.

The relations of this file are preorders, on lexica (`Lexicon.Reaches`), on a rule beside a lexicon, on
rules beside one and on sessions (`Leads`).  `Outcome.Within` carries each through the operations.
-/
import MeaningGraph.Analysis
import MeaningGraph.Proofs.Activation.Steps
import MeaningGraph.Proofs.Lexicon.Changes

namespace MeaningGraph

open Outcome

variable {α β : Type}

/-! ## Calls -/

namespace Lexicon

variable {l l' : Lexicon}

/-- Some history leads from `l` to `l'`. -/
def Reaches (l l' : Lexicon) : Prop :=
  ∃ history, l' = l.replay history

instance : Std.Refl Reaches where
  refl _ := ⟨[], rfl⟩

instance : IsTrans Lexicon Reaches where
  trans := by
    rintro l _ _ ⟨h₁, rfl⟩ ⟨h₂, rfl⟩
    exact ⟨h₁ ++ h₂, (replay_append l h₁ h₂).symm⟩

theorem Reaches.call (l : Lexicon) (c : Call) : Reaches l (l.call c) :=
  ⟨[c], rfl⟩

theorem Reaches.reachable (h : Reaches l l') (hl : l.Reachable) : l'.Reachable := by
  obtain ⟨h₁, rfl⟩ := hl
  obtain ⟨h₂, rfl⟩ := h
  exact ⟨h₁ ++ h₂, (replay_append empty h₁ h₂).symm⟩

theorem Reaches.evolves (h : Reaches l l') (hl : l.Sound) : Evolves l l' := by
  obtain ⟨history, rfl⟩ := h
  exact hl.evolves_replay history

theorem within_create (name : String) (control : Option Control) :
    Within Reaches (create name control) := by
  intro l
  exact Reaches.call l (.create name control)

theorem within_append (p c : MachineId) (i : Nat) :
    Within Reaches (changeGraph (·.append p c i)) := by
  intro l
  exact Reaches.call l (.append p c i)

theorem within_setControl (id : MachineId) (control : Option Control) :
    Within Reaches (changeGraph (·.setControl id control)) := by
  intro l
  exact Reaches.call l (.setControl id control)

theorem within_addActive (ids : List MachineId) : Within Reaches (addActive ids) := by
  intro l
  exact Reaches.call l (.addActive ids)

theorem within_expand (id : MachineId) : Within Reaches (expand id) := by
  intro l
  exact Reaches.call l (.expand id)

theorem within_activate : Within Reaches activate := by
  intro l
  exact Reaches.call l .activate

theorem within_mergeActive (ids : List MachineId) : Within Reaches (mergeActive ids) := by
  intro l
  exact Reaches.call l (.mergeActive ids)

end Lexicon

/-! ## The acts of the rules

Rules make four calls, so an act goes wherever these four go. -/

section Acts

open Lexicon

/-- The calls that rules make go along `R`. -/
structure Lexicon.Admits (R : Lexicon → Lexicon → Prop) : Prop where
  create : ∀ name control, Within R (create name control)
  append : ∀ p c i, Within R (changeGraph (·.append p c i))
  setControl : ∀ id control, Within R (changeGraph (·.setControl id control))
  addActive : ∀ ids, Within R (addActive ids)

theorem Lexicon.admits_reaches : Admits Reaches :=
  ⟨within_create, within_append, within_setControl, within_addActive⟩

theorem Lexicon.admits_gains : Admits Gains :=
  ⟨gains_create, gains_append, gains_setControl, gains_addActive⟩

variable {R : Lexicon → Lexicon → Prop} [Std.Refl R] [IsTrans Lexicon R]

theorem AppendRule.within_act (hR : Admits R) (r : AppendRule) (seq : List MachineId) :
    Within R (r.act seq) := by
  intro l
  by_cases hpair : ∃ first second, seq = [first, second]
  · obtain ⟨first, second, rfl⟩ := hpair
    rw [act_pair]
    split
    · exact (hR.append _ _ _).bind (fun _ => .pure _) l
    · exact refl_of R l
  · have hlast : r.lastCheck l.graph seq = false :=
      lastCheck_of_ne_pair fun first second h => hpair ⟨first, second, h⟩
    rw [act_of_not_lastCheck hlast]
    exact refl_of R l

theorem TriggerRule.within_hold (hR : Admits R) (plugin : MachineId) (ids : List MachineId) :
    Within R (hold plugin ids) := by
  induction ids with
  | nil => exact .pure ()
  | cons id ids ih => exact (hR.append plugin id 0).bind fun _ => ih

theorem TriggerRule.within_act (hR : Admits R) (r : TriggerRule) (seq : List MachineId) :
    Within R (r.act seq) := by
  rw [act_eq]
  refine Within.get.bind fun l => ?_
  split
  · refine (hR.create _ _).bind fun plugin => (within_hold hR plugin seq).bind fun _ => ?_
    exact (hR.addActive [plugin]).bind fun _ => .pure _
  · exact .pure none

namespace VerbRule

theorem within_link (hR : Admits R) (r : VerbRule) (verb : MachineId) (links : List (MachineId × Nat)) :
    Within R (r.link verb links) := by
  induction links with
  | nil => exact .pure ()
  | cons link links ih =>
    obtain ⟨id, k⟩ := link
    unfold VerbRule.link
    cases r.arguments[k]? with
    | none => exact (Within.pure ()).bind fun _ => ih
    | some argument => exact (hR.append verb id argument.partition).bind fun _ => ih

omit [IsTrans Lexicon R] in
theorem within_failStray (r : VerbRule) (stray : Option MachineId) : Within R (r.failStray stray) := by
  intro l
  obtain ⟨e, he, -⟩ := r.failStray_fails stray l
  rw [he]
  exact refl_of R l

theorem within_act (hR : Admits R) (r : VerbRule) (seq : List MachineId) : Within R (r.act seq) := by
  rw [act_eq]
  refine Within.get.bind fun l => ?_
  split
  · refine (within_ask _).bind fun found => ?_
    cases found.1 <|> l.firstInstance? r.verb with
    | none => exact .pure none
    | some verb =>
      cases r.assign l.graph found.2 [] with
      | none => exact r.within_failStray _
      | some slots =>
        refine (hR.setControl verb _).bind fun _ => ?_
        exact (within_link hR r verb _).bind fun _ => .pure _
  · exact .pure none

end VerbRule

/-- An act changes the lexicon by the calls that rules make. -/
theorem Construction.act_lexicon (hR : Admits R) (seq : List MachineId) (c : Construction) (l : Lexicon) :
    R l (state (Rule.act seq (c, l))).2 := by
  cases c with
  | append r =>
    rw [act_append, Rule.state_onPart]
    exact r.within_act hR seq l
  | verb r =>
    rw [act_verb, Rule.state_onPart]
    exact r.within_act hR seq l
  | trigger r =>
    rw [act_trigger, Rule.state_onPart]
    exact r.within_act hR seq l
  | avm r => exact refl_of R l

end Acts

/-! ## One rule beside a lexicon -/

namespace Construction

/-- Calls lead from the one lexicon to the other, and the rule has kept its program. -/
structure Leads (s t : Construction × Lexicon) : Prop where
  lexicon : Lexicon.Reaches s.2 t.2
  program : t.1.program = s.1.program

instance : Std.Refl Leads where
  refl s := ⟨refl_of Lexicon.Reaches s.2, rfl⟩

instance : IsTrans (Construction × Lexicon) Leads where
  trans _ _ _ h h' := ⟨trans_of Lexicon.Reaches h.lexicon h'.lexicon, h'.program.trans h.program⟩

theorem leads_onLexicon {x : LexiconM α} (hx : Within Lexicon.Reaches x) (c : Construction)
    (l : Lexicon) : Leads (c, l) (state (Rule.onPart (Prod.mk c) x l)) := by
  rw [Rule.state_onPart]
  exact ⟨hx l, rfl⟩

theorem within_onlyLexicon {x : LexiconM α} (hx : Within Lexicon.Reaches x) :
    Within Leads (Rule.onlyLexicon x) := by
  rintro ⟨c, l⟩
  exact leads_onLexicon hx c l

theorem within_checkNow (seq : List MachineId) : Within Leads (Rule.checkNow seq) := by
  rintro ⟨c, l⟩
  obtain ⟨hprogram, hlexicon⟩ := c.program_checkNow seq l
  refine ⟨?_, hprogram⟩
  rw [hlexicon]
  exact refl_of Lexicon.Reaches l

theorem program_act (seq : List MachineId) (c : Construction) (l : Lexicon) :
    (state (Rule.act seq (c, l))).1.program = c.program := by
  cases c with
  | append r => rw [act_append, Rule.state_onPart]
  | verb r => rw [act_verb, Rule.state_onPart]
  | trigger r => rw [act_trigger, Rule.state_onPart]
  | avm r =>
    change (avm (r.act l.graph seq).2).program = (avm r).program
    unfold AvmRule.act
    split
    · exact program_fill r l.graph _
    · rfl

theorem within_act (seq : List MachineId) : Within Leads (Rule.act seq) := by
  rintro ⟨c, l⟩
  exact ⟨act_lexicon Lexicon.admits_reaches seq c l, program_act seq c l⟩

end Construction

/-! ## The passes over one rule -/

namespace Activation

open Construction (Leads within_checkNow within_act within_onlyLexicon)

theorem within_candidates (kept : List (List MachineId)) (refused : Option (List MachineId))
    (seqs : List (List MachineId)) : Within Leads (candidates kept refused seqs) := by
  induction seqs generalizing kept refused with
  | nil => exact .pure kept.reverse
  | cons seq seqs ih =>
    unfold candidates
    split
    · exact ih kept refused
    · refine (within_checkNow seq).bind fun accepted => ?_
      cases accepted with
      | true => exact ih (seq :: kept) none
      | false => exact Within.get.bind fun s => ih kept _

theorem within_fireFirst (seqs : List (List MachineId)) : Within Leads (fireFirst seqs) := by
  induction seqs with
  | nil => exact .pure false
  | cons seq seqs ih =>
    refine (within_act seq).bind fun answer => ?_
    cases answer with
    | some new =>
      exact (within_onlyLexicon (Lexicon.within_mergeActive new)).bind fun _ => .pure true
    | none => exact ih

theorem within_fire (maxArity : Nat) : Within Leads (fire maxArity) :=
  Within.get.bind fun _ => (within_candidates [] none _).bind within_fireFirst

theorem within_offerEach (ids : List MachineId) : Within Leads (offerEach ids) := by
  induction ids with
  | nil => exact .pure ()
  | cons id ids ih =>
    refine (within_checkNow [id]).bind fun accepted => ?_
    cases accepted with
    | true => exact (within_act [id]).bind fun _ => ih
    | false => exact (Within.pure ()).bind fun _ => ih

theorem within_offerAll : Within Leads offerAll :=
  Within.get.bind fun s => (within_offerEach s.2.order).bind fun _ => Within.get.bind fun _ => .pure _

end Activation

theorem Chunk.within_reduceWith (seq : List MachineId) :
    Within Construction.Leads (Chunk.reduceWith seq) := by
  refine (Construction.within_checkNow seq).bind fun accepted => ?_
  cases accepted with
  | true =>
    refine (Construction.within_act seq).bind fun answer => ?_
    cases answer with
    | some new => exact .pure _
    | none => exact .pure none
  | false => exact .pure none

/-! ## Rules beside a lexicon -/

namespace RulesM

/-- Calls lead from the one lexicon to the other, and the rules have kept their programs. -/
structure Leads (s t : List Construction × Lexicon) : Prop where
  lexicon : Lexicon.Reaches s.2 t.2
  programs : t.1.map Construction.program = s.1.map Construction.program

instance : Std.Refl Leads where
  refl s := ⟨refl_of Lexicon.Reaches s.2, rfl⟩

instance : IsTrans (List Construction × Lexicon) Leads where
  trans _ _ _ h h' := ⟨trans_of Lexicon.Reaches h.lexicon h'.lexicon, h'.programs.trans h.programs⟩

variable {r r' : Construction} {rs : List Construction} {l l' : Lexicon}

theorem Leads.of_head (h : Construction.Leads (r, l) (r', l')) :
    Leads (r :: rs, l) (r' :: rs, l') :=
  ⟨h.lexicon, congrArg (· :: _) h.program⟩

theorem Leads.behind {x : EStateM.Result Error (List Construction × Lexicon) α} {a : α → β}
    (h : Construction.Leads (r, l) (r', l')) (hx : Leads (rs, l') (state x)) :
    Leads (r :: rs, l) (state (behind r' a x)) := by
  rcases x with ⟨u, rs', l''⟩ | ⟨e, rs', l''⟩
  · exact ⟨trans_of Lexicon.Reaches h.lexicon hx.lexicon, congrArg₂ List.cons h.program hx.programs⟩
  · exact ⟨trans_of Lexicon.Reaches h.lexicon hx.lexicon, congrArg₂ List.cons h.program hx.programs⟩

theorem within_each {f : EStateM Error (Construction × Lexicon) α}
    (hf : Within Construction.Leads f) : Within Leads (each f) := by
  rintro ⟨rs, l⟩
  change Leads (rs, l) (state (forEach f rs l))
  induction rs generalizing l with
  | nil => exact refl_of Leads ([], l)
  | cons r rs ih =>
    have hr := hf (r, l)
    cases h : f (r, l) with
    | error e t =>
      obtain ⟨r', l'⟩ := t
      rw [h] at hr
      rw [forEach_cons_error h]
      exact .of_head hr
    | ok a t =>
      obtain ⟨r', l'⟩ := t
      rw [h] at hr
      rw [forEach_cons h]
      exact .behind hr (ih l')

theorem within_first {f : EStateM Error (Construction × Lexicon) (Option α)}
    (hf : Within Construction.Leads f) : Within Leads (first f) := by
  rintro ⟨rs, l⟩
  change Leads (rs, l) (state (firstOf f rs l))
  induction rs generalizing l with
  | nil => exact refl_of Leads ([], l)
  | cons r rs ih =>
    have hr := hf (r, l)
    cases h : f (r, l) with
    | error e t =>
      obtain ⟨r', l'⟩ := t
      rw [h] at hr
      rw [firstOf_cons_error h]
      exact .of_head hr
    | ok answer t =>
      obtain ⟨r', l'⟩ := t
      rw [h] at hr
      cases answer with
      | some a =>
        rw [firstOf_cons_some h]
        exact .of_head hr
      | none =>
        rw [firstOf_cons_none h]
        exact .behind hr (ih l')

end RulesM

namespace Chunk

open RulesM (Leads)

theorem within_reduceIn (ws : List (Window MachineId)) : Within Leads (reduceIn ws) := by
  induction ws with
  | nil => exact .pure none
  | cons w ws ih =>
    refine (RulesM.within_first (within_reduceWith w.inside)).bind fun answer => ?_
    cases answer with
    | some new => exact .pure _
    | none => exact ih

theorem within_reduce (budget : Nat) (chunk : List MachineId) :
    Within Leads (reduce budget chunk) := by
  induction budget generalizing chunk with
  | zero => exact .pure (0, chunk)
  | succ budget ih =>
    refine (within_reduceIn _).bind fun answer => ?_
    cases answer with
    | none => exact .pure (0, chunk)
    | some chunk => exact (ih chunk).bind fun _ => .pure _

theorem within_reduceAll (budget : Nat) (chunks : List (List MachineId)) :
    Within Leads (reduceAll budget chunks) := by
  induction chunks with
  | nil => exact .pure (0, [])
  | cons chunk chunks ih =>
    exact (within_reduce budget chunk).bind fun _ => ih.bind fun _ => .pure _

end Chunk

/-! ## Sessions -/

namespace Session

/-- Calls lead from the one lexicon to the other, and the rules have kept their programs. -/
structure Leads (s t : Session Construction) : Prop where
  lexicon : Lexicon.Reaches s.lexicon t.lexicon
  program : t.rules.program = s.rules.program

instance : Std.Refl Leads where
  refl s := ⟨refl_of Lexicon.Reaches s.lexicon, rfl⟩

instance : IsTrans (Session Construction) Leads where
  trans _ _ _ h h' := ⟨trans_of Lexicon.Reaches h.lexicon h'.lexicon, h'.program.trans h.program⟩

theorem within_onLexicon {x : LexiconM α} (hx : Within Lexicon.Reaches x) :
    Within Leads (SessionM.onLexicon x) := by
  intro s
  unfold SessionM.onLexicon
  rw [Rule.state_onPart]
  exact ⟨hx s.lexicon, rfl⟩

theorem within_onKind {x : RulesM Construction α} (hx : Within RulesM.Leads x) (k : RuleKind) :
    Within Leads (SessionM.onKind k x) := by
  intro s
  have hs := hx (s.rules.ofKind k, s.lexicon)
  unfold SessionM.onKind
  rw [Rule.state_onPart]
  refine ⟨hs.lexicon, RuleSet.program_put ?_⟩
  rw [RuleSet.ofKind_program]
  exact hs.programs

end Session

namespace Activation

open Session (Leads within_onLexicon within_onKind)

theorem within_expandEach (ids : List MachineId) : Within Lexicon.Reaches (expandEach ids) := by
  induction ids with
  | nil => exact .pure ()
  | cons id ids ih => exact (Lexicon.within_expand id).bind fun _ => ih

theorem within_expandPass : Within Lexicon.Reaches expandPass :=
  Within.get.bind fun _ => (within_expandEach _).bind fun _ => .pure _

theorem within_iterate (o : Options) : Within Leads (iterate o) := by
  rw [iterate_eq]
  refine (within_onLexicon within_expandPass).bind fun expanded => ?_
  refine (within_onKind (RulesM.within_each (within_fire o.maxArity)) .semantic).bind fun fired => ?_
  refine (within_onKind (RulesM.within_each within_offerAll) .avm).bind fun filled => ?_
  refine (within_onLexicon Lexicon.within_activate).bind fun activated => ?_
  intro s
  exact refl_of Leads s

theorem within_proceed {o : Options} {left number : Nat} {plugin : Option Nat}
    (h : ∀ number plugin, Within Leads (saturate o left number plugin)) (it : Iteration)
    (satisfied grown : Bool) : Within Leads (proceed o left number plugin it satisfied grown) := by
  unfold proceed
  cases stop? o it satisfied plugin number grown with
  | some reason => exact .pure _
  | none => exact (h _ _).bind fun _ => .pure _

theorem within_saturate (o : Options) (left number : Nat) (plugin : Option Nat) :
    Within Leads (saturate o left number plugin) := by
  induction left generalizing number plugin with
  | zero => exact .pure ([], StopReason.iterationCap)
  | succ left ih =>
    intro s
    rw [saturate_succ]
    refine (within_iterate o).bind (fun x s' => ?_) s
    exact within_proceed ih x.1 x.2 _ s'

theorem within_run (o : Options) (chunks : List (List MachineId)) : Within Leads (run o chunks) := by
  rw [run_eq]
  refine (within_onLexicon (Lexicon.within_addActive _)).bind fun _ => ?_
  refine (within_onLexicon (Lexicon.within_ask _)).bind fun budget => ?_
  refine (within_onKind (Chunk.within_reduceAll _ chunks) .chunk).bind fun x => ?_
  refine (within_saturate o _ _ _).bind fun y => ?_
  intro s
  exact refl_of Leads s

end Activation

/-! ## Analyses -/

namespace Analysis

open Session (Leads within_onLexicon)

theorem within_seedWords (case? : Option String) (words : List Word) :
    Within Lexicon.Reaches (seedWords case? words) := by
  induction words with
  | nil => exact .pure []
  | cons w ws ih =>
    refine (Lexicon.within_ask _).bind fun control => ?_
    exact (Lexicon.within_create _ _).bind fun id => ih.bind fun _ => .pure _

theorem within_seed (sentence : List Phrase) : Within Lexicon.Reaches (seed sentence) := by
  induction sentence with
  | nil => exact .pure []
  | cons p ps ih => exact (within_seedWords _ _).bind fun _ => ih.bind fun _ => .pure _

theorem within_analyze (o : Options) (sentence : List Phrase) :
    Within Leads (analyze o sentence) := by
  have hclear : Within Leads (modify clear : SessionM Construction Unit) := by
    intro s
    exact ⟨Lexicon.Reaches.call s.lexicon .clearActive, s.rules.program_reset⟩
  refine hclear.bind fun _ => ?_
  exact (within_onLexicon (within_seed sentence)).bind fun chunks => Activation.within_run o chunks

/-- Analyses stay among the lexica that calls reach, whether they answer or fail. -/
theorem reachable_analyze {s : Session Construction} (h : s.lexicon.Reachable) (o : Options)
    (sentence : List Phrase) : (state (analyze o sentence s)).lexicon.Reachable :=
  (within_analyze o sentence s).lexicon.reachable h

end Analysis

end MeaningGraph
