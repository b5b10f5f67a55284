/-
# Firing dries up

A rule that has accepted a sequence and acted on it refuses the sequence at once, and then whatever calls and
other rules do in the meantime, for as long as the links that it drew stand.

    check, act ──▶ links ──▶ lastCheck = false ──▶ act answers nothing

In two cases this is not so.

The token of a verb alone, where it happens to match the only argument: no machine is left to be linked, the last
check has nothing to look for, and the rule acts on the sequence again and again.

A plugin machine that no longer calls the endpoint.  A trigger rule knows its machines by their control, and the act
of a verb's rule replaces the control of the machine that it takes for the verb.  A plugin machine with the name of a
verb is such a machine: once the verb has acted on it, its links stand, but the trigger rule acts on their ends again.
-/
import MeaningGraph.Proofs.Activation.Settled
import MeaningGraph.Proofs.Rule.Linked
import MeaningGraph.Proofs.Rule.Trigger

namespace MeaningGraph.Construction

open MeaningGraph.Graph (Stands)
open Outcome (steps_of_ok)

variable {c d : Construction} {s s₁ s₂ : Construction × Lexicon} {l : Lexicon} {g : Graph}
  {seq new : List MachineId}

/-- A rule as it is built; that of a verb may have checked sequences since. -/
inductive Built : Construction → Prop
  | append (r : AppendRule) : Built (.append r)
  | verb {l : Lexicon} {name : String} {cases : DeepCases} {r : VerbRule}
      (hr : VerbRule.ofLexicon? l name cases = .ok (some r)) (checks : List (Graph × List MachineId)) :
      Built (.verb (r.afterChecks checks))
  | trigger (r : TriggerRule) : Built (.trigger r)

/-- The sequence is the token of the rule's verb, alone. -/
def LoneToken (c : Construction) (g : Graph) (seq : List MachineId) : Prop :=
  ∃ r token, c = .verb r ∧ seq = [token] ∧ g.name? token = some r.verb

theorem lastCheck_congr (h : c.program = d.program) (g : Graph) (seq : List MachineId) :
    Rule.lastCheck c g seq = Rule.lastCheck d g seq := by
  cases d with
  | append r =>
    cases c <;> cases h
    rfl
  | trigger r =>
    cases c <;> cases h
    rfl
  | avm r =>
    cases c with
    | avm r' => rfl
    | append r' => cases h
    | verb r' => cases h
    | trigger r' => cases h
  | verb r =>
    obtain ⟨r', rfl, hrest⟩ := exists_verb_of_program h
    change r'.rest.lastCheck g seq = r.rest.lastCheck g seq
    rw [hrest]

theorem Built.kind_ne_avm (h : c.Built) : Rule.kind c ≠ .avm := by
  cases h with
  | append r =>
    change (if r.semantic then RuleKind.semantic else RuleKind.chunk) ≠ .avm
    split <;> exact RuleKind.noConfusion
  | verb hr checks => exact RuleKind.noConfusion
  | trigger r => exact RuleKind.noConfusion

theorem act_of_not_lastCheck (h : Rule.lastCheck s.1 s.2.graph seq = false) :
    Rule.act seq s = .ok none s := by
  obtain ⟨c, l⟩ := s
  cases c with
  | append r =>
    rw [act_append, Rule.onPart_of_ok (AppendRule.act_of_not_lastCheck h)]
  | trigger r =>
    rw [act_trigger, Rule.onPart_of_ok (TriggerRule.act_of_not_lastCheck h)]
  | verb r =>
    rw [act_verb, Rule.onPart_of_ok (VerbRule.act_of_not_lastCheck h)]
  | avm r => cases h

/-- A rule that acted refuses the sequence while its links stand.  A verb has to have had a machine to link, and a
plugin machine has to call the endpoint still. -/
theorem lastCheck_of_act (hl : l.Sound) (hfiled : l.Filed) (hnodup : seq.Nodup)
    (hlive : ∀ id ∈ seq, l.graph.contains id = true) (hkind : Rule.kind c ≠ .avm)
    (hact : Rule.act seq (c, l) = .ok (some new) s₂)
    (hleft : ∀ r, c = .verb r → ∃ id ∈ seq, some id ≠ seq.find? (r.isVerb l.graph))
    (hcalls : ∀ r, c = .trigger r → ∀ p ∈ new, s.2.graph.Calls r.call.endpoint p)
    (hs : Leads s₂ s) (h : Stands s₂.2.graph s.2.graph new seq) :
    Rule.lastCheck s.1 s.2.graph seq = false := by
  have hacts : Leads (c, l) s₂ := (within_act seq).of_ok hact
  have hleads : Leads (c, l) s := trans_of Leads hacts hs
  have hevolves : Lexicon.Evolves l s.2 := hleads.lexicon.evolves hl
  rw [lastCheck_congr hleads.program]
  cases c with
  | append r =>
    rw [act_append] at hact
    obtain ⟨l', hown, rfl⟩ := Rule.onPart_ok hact
    exact AppendRule.lastCheck_of_act hown h
  | verb r =>
    rw [act_verb] at hact
    obtain ⟨l', hown, rfl⟩ := Rule.onPart_ok hact
    exact VerbRule.lastCheck_of_act hfiled hnodup hlive hown (hleft r rfl) hevolves h
  | trigger r =>
    rw [act_trigger] at hact
    obtain ⟨l', hown, rfl⟩ := Rule.onPart_ok hact
    exact TriggerRule.lastCheck_of_act hown hevolves.sound.graph h fun p hp =>
      TriggerRule.isOwn_iff.2 (hcalls r rfl p hp)
  | avm r => exact absurd rfl hkind

/-- A sequence that a verb's rule accepts has a machine beside the token, unless it is the token alone. -/
theorem exists_left {name : String} {cases : DeepCases} {r : VerbRule} {l₀ : Lexicon}
    (hr : VerbRule.ofLexicon? l₀ name cases = .ok (some r)) (checks : List (Graph × List MachineId))
    (hnodup : seq.Nodup)
    (hcheck : Rule.checkNow seq (Construction.verb (r.afterChecks checks), l) = .ok true s₁)
    (hlone : ¬ LoneToken (.verb (r.afterChecks checks)) l.graph seq) :
    ∃ id ∈ seq, some id ≠ seq.find? ((r.afterChecks checks).isVerb l.graph) := by
  by_contra hnone
  have hall : ∀ id ∈ seq, seq.find? ((r.afterChecks checks).isVerb l.graph) = some id := by
    intro id hid
    by_contra hne
    exact hnone ⟨id, hid, fun heq => hne heq.symm⟩
  cases seq with
  | nil =>
    obtain ⟨c', hown, -⟩ := Rule.onPart_ok hcheck
    obtain ⟨r', hown, -⟩ := Rule.onPart_ok hown
    obtain ⟨b, r'', hanswer, hb⟩ := VerbRule.check_afterChecks hr checks l.graph []
    rw [hown] at hanswer
    cases hanswer
    obtain ⟨args, hlength, -, hargs⟩ := hb.1 rfl
    rcases hargs with rfl | ⟨v, -, -, hcons⟩
    · exact (VerbRule.ofLexicon?_ok hr).1 (List.length_eq_zero_iff.1 hlength.symm)
    · cases hcons
  | cons id ids =>
    have hid := hall id List.mem_cons_self
    have hids : ids = [] := by
      refine List.eq_nil_iff_forall_not_mem.2 ?_
      intro x hx
      have heq := Option.some.inj (hid.symm.trans (hall x (List.mem_cons_of_mem _ hx)))
      exact (List.nodup_cons.1 hnodup).1 (heq ▸ hx)
    have hverb : (r.afterChecks checks).isVerb l.graph id = true := List.find?_some hid
    exact hlone ⟨_, id, rfl, by rw [hids], beq_iff_eq.1 hverb⟩

theorem act_lone (hlone : LoneToken c l.graph seq) (hact : Rule.act seq (c, l) = .ok (some new) s₂) :
    Rule.lastCheck s₂.1 s₂.2.graph seq = true ∧ ∃ s₃, Rule.act seq s₂ = .ok (some new) s₃ := by
  obtain ⟨r, token, rfl, rfl, hname⟩ := hlone
  obtain ⟨-, l', hfirst, hname'⟩ := VerbRule.act_lone hname
  rw [act_verb, Rule.onPart_of_ok hfirst] at hact
  cases hact
  obtain ⟨hlast, l'', hsecond, -⟩ := VerbRule.act_lone hname'
  refine ⟨hlast, (.verb r, l''), ?_⟩
  rw [act_verb, Rule.onPart_of_ok hsecond]

theorem loneToken_congr (h : c.program = d.program) (hlone : LoneToken d g seq) : LoneToken c g seq := by
  obtain ⟨r, token, rfl, rfl, hname⟩ := hlone
  obtain ⟨r', rfl, hrest⟩ := exists_verb_of_program h
  refine ⟨r', token, rfl, rfl, ?_⟩
  change _ = some r'.rest.verb
  rw [hrest]
  exact hname

theorem calls_of_act (hl : l.Sound) (hact : Rule.act seq (c, l) = .ok (some new) s₂) :
    ∀ r, c = .trigger r → ∀ p ∈ new, s₂.2.graph.Calls r.call.endpoint p := by
  rintro r rfl p hp
  rw [act_trigger] at hact
  obtain ⟨l', hown, rfl⟩ := Rule.onPart_ok hact
  exact TriggerRule.isOwn_iff.1 (TriggerRule.isOwn_of_act hl hown p hp)

/-- A trigger rule acts on machines that are not owned, also if it did before. -/
theorem acts_on_unowned {r : TriggerRule} (hprogram : s.1.program = (trigger r).program) (hl : s.2.Reachable)
    (hlive : ∀ id ∈ seq, s.2.graph.contains id = true) (hne : seq ≠ [])
    (hfree : ∀ id ∈ seq, ¬ s.2.graph.Owned r.call.endpoint id) :
    Rule.lastCheck s.1 s.2.graph seq = true ∧ ∃ p s₃, Rule.act seq s = .ok (some [p]) s₃ := by
  obtain ⟨c, l⟩ := s
  obtain rfl : c = .trigger r := by
    cases c <;> cases hprogram
    rfl
  have hlast := (TriggerRule.lastCheck_iff hl.sound.graph hlive).2 ⟨hne, hfree⟩
  obtain ⟨p, l', hact, -⟩ := TriggerRule.exists_triggered hl.sound hl.filed hlive hlast
  refine ⟨hlast, p, (.trigger r, l'), ?_⟩
  rw [act_trigger, Rule.onPart_of_ok hact]

/-- A rule that has accepted a sequence of different live machines and acted on it refuses the sequence at once: its
last check says no, and its act answers nothing and changes nothing.  It does so in every state that calls lead to, by
this rule or by others, as long as the links stand that it drew, and, if it is a trigger rule, the machine that it made
calls the endpoint.

There are two exceptions.  A verb's rule acts on the token alone again, at once.  And a trigger rule acts again on
machines that are held by the plugin machine it made, when this calls the endpoint no more; a plugin machine named like
a verb comes to that when the verb's rule acts and gives it the control of the verb. -/
theorem refuses_after_act (hc : c.Built) (hl : l.Reachable) (hnodup : seq.Nodup)
    (hlive : ∀ id ∈ seq, l.graph.contains id = true)
    (hcheck : Rule.checkNow seq (c, l) = .ok true s₁) (hact : Rule.act seq s₁ = .ok (some new) s₂) :
    (¬ LoneToken c l.graph seq →
      (Rule.lastCheck s₂.1 s₂.2.graph seq = false ∧ Rule.act seq s₂ = .ok none s₂) ∧
      ∀ s, Leads s₂ s → Stands s₂.2.graph s.2.graph new seq →
        (∀ r, c = .trigger r → ∀ p ∈ new, s.2.graph.Calls r.call.endpoint p) →
        Rule.lastCheck s.1 s.2.graph seq = false ∧ Rule.act seq s = .ok none s) ∧
    (LoneToken c l.graph seq →
      Rule.lastCheck s₂.1 s₂.2.graph seq = true ∧ ∃ s₃, Rule.act seq s₂ = .ok (some new) s₃) ∧
    (∀ r, c = .trigger r → ∀ s, Leads s₂ s → (∀ id ∈ seq, s.2.graph.contains id = true) → seq ≠ [] →
      (∀ id ∈ seq, ¬ s.2.graph.Owned r.call.endpoint id) →
      Rule.lastCheck s.1 s.2.graph seq = true ∧ ∃ p s₃, Rule.act seq s = .ok (some [p]) s₃) := by
  obtain ⟨hprogram, hlexicon⟩ := c.program_checkNow seq l
  rw [hcheck] at hprogram hlexicon
  obtain ⟨c₁, l₁⟩ := s₁
  obtain rfl : l₁ = l := hlexicon
  have hprogram : c₁.program = c.program := hprogram
  have htrigger : ∀ r, c₁ = .trigger r → c = .trigger r := by
    rintro r rfl
    cases c <;> cases hprogram
    rfl
  refine ⟨fun hlone => ?_, fun hlone => ?_, fun r hr s hs hlive' hne hfree => ?_⟩
  · have hleft : ∀ r, c₁ = .verb r → ∃ id ∈ seq, some id ≠ seq.find? (r.isVerb l₁.graph) := by
      rintro r rfl
      obtain ⟨r', rfl, hrest⟩ := exists_verb_of_program hprogram.symm
      change ∃ id ∈ seq, some id ≠ seq.find? (r.rest.isVerb l₁.graph)
      rw [← hrest]
      cases hc with
      | verb hr checks => exact exists_left hr checks hnodup hcheck hlone
    have hrefuses : ∀ s, Leads s₂ s → Stands s₂.2.graph s.2.graph new seq →
        (∀ r, c₁ = .trigger r → ∀ p ∈ new, s.2.graph.Calls r.call.endpoint p) →
        Rule.lastCheck s.1 s.2.graph seq = false ∧ Rule.act seq s = .ok none s := by
      intro s hs hstands hcalls
      have hkind : Rule.kind c₁ ≠ .avm := kind_eq_of_program hprogram ▸ hc.kind_ne_avm
      have hlast := lastCheck_of_act hl.sound hl.filed hnodup hlive hkind hact hleft hcalls hs hstands
      exact ⟨hlast, act_of_not_lastCheck hlast⟩
    refine ⟨hrefuses s₂ (refl_of Leads s₂) (.refl _ _ _) (calls_of_act hl.sound hact), ?_⟩
    exact fun s hs hstands hcalls => hrefuses s hs hstands fun r hr => hcalls r (htrigger r hr)
  · exact act_lone (loneToken_congr hprogram hlone) hact
  · have hleads : Leads (c₁, l₁) s := trans_of Leads ((within_act seq).of_ok hact) hs
    have hsame : s.1.program = c₁.program := hleads.program
    refine acts_on_unowned ?_ (hleads.lexicon.reachable hl) hlive' hne hfree
    rw [hsame, hprogram, hr]

/-- Checks a sequence, acts on it, and looks at it again: the answer of the check, what the act answered, the
last check after it, and what a second act answers. -/
def checkAndActTwice (seq : List MachineId) :
    EStateM Error (Construction × Lexicon)
      (Bool × Option (List MachineId) × Bool × Option (List MachineId)) := do
  let accepted ← Rule.checkNow seq
  let first ← Rule.act seq
  let (c, l) ← get
  let second ← Rule.act seq
  return (accepted, first, Rule.lastCheck c l.graph seq, second)

theorem checkAndActTwice_ok {accepted last : Bool} {first second : Option (List MachineId)}
    (h : Outcome.answer? (checkAndActTwice seq (c, l)) = some (accepted, first, last, second)) :
    ∃ s₁ s₂ s₃, Rule.checkNow seq (c, l) = .ok accepted s₁ ∧ Rule.act seq s₁ = .ok first s₂ ∧
      Rule.lastCheck s₂.1 s₂.2.graph seq = last ∧ Rule.act seq s₂ = .ok second s₃ := by
  obtain ⟨s, hrun⟩ := Outcome.exists_of_answer? h
  obtain ⟨_, s₁, hcheck, hrun⟩ := steps_of_ok hrun
  obtain ⟨_, s₂, hfirst, hrun⟩ := steps_of_ok hrun
  obtain ⟨_, s₂', hget, hrun⟩ := steps_of_ok hrun
  cases hget
  obtain ⟨_, s₃, hsecond, hend⟩ := steps_of_ok hrun
  cases hend
  exact ⟨s₁, s₂, _, hcheck, hfirst, rfl, hsecond⟩

/-- Someone goes from home to town. -/
def trip : Lexicon :=
  Lexicon.empty.replay [.create "go" (some (.pos "VERB")), .create "FROM" none, .create "TO" none,
    .append ⟨0, 1⟩ ⟨1, 1⟩ 1, .append ⟨0, 1⟩ ⟨2, 1⟩ 2, .addStatic [⟨0, 1⟩],
    .create "go" (some (.pos "VERB")), .create "home" (some (.kr ⟨"NOUN", [⟨"CAS", "ELA"⟩]⟩)),
    .create "town" (some (.kr ⟨"NOUN", [⟨"CAS", "ILL"⟩]⟩)), .addActive [⟨3, 1⟩, ⟨4, 1⟩, ⟨5, 1⟩]]

theorem refuses_after_act_trip :
    ∃ s₁ s₂, Rule.checkNow [⟨3, 1⟩, ⟨5, 1⟩, ⟨4, 1⟩] (verb VerbRule.going, trip) = .ok true s₁ ∧
      Rule.act [⟨3, 1⟩, ⟨5, 1⟩, ⟨4, 1⟩] s₁ = .ok (some [⟨3, 1⟩]) s₂ ∧
      (Rule.lastCheck s₂.1 s₂.2.graph [⟨3, 1⟩, ⟨5, 1⟩, ⟨4, 1⟩] = false ∧
        Rule.act [⟨3, 1⟩, ⟨5, 1⟩, ⟨4, 1⟩] s₂ = .ok none s₂) ∧
      ∀ s, Leads s₂ s → Stands s₂.2.graph s.2.graph [⟨3, 1⟩] [⟨3, 1⟩, ⟨5, 1⟩, ⟨4, 1⟩] →
        Rule.lastCheck s.1 s.2.graph [⟨3, 1⟩, ⟨5, 1⟩, ⟨4, 1⟩] = false ∧
          Rule.act [⟨3, 1⟩, ⟨5, 1⟩, ⟨4, 1⟩] s = .ok none s := by
  have hrun : Outcome.answer? (checkAndActTwice [⟨3, 1⟩, ⟨5, 1⟩, ⟨4, 1⟩] (verb VerbRule.going, trip)) =
      some (true, some [⟨3, 1⟩], false, none) := by
    decide +kernel
  obtain ⟨s₁, s₂, s₃, hcheck, hact, -, -⟩ := checkAndActTwice_ok hrun
  have hrule : VerbRule.ofLexicon? VerbRule.journey "go" .default = .ok (some VerbRule.going) := rfl
  have hbuilt : Built (verb VerbRule.going) := .verb hrule []
  have hlone : ¬ LoneToken (verb VerbRule.going) trip.graph [⟨3, 1⟩, ⟨5, 1⟩, ⟨4, 1⟩] := by
    rintro ⟨r, token, -, hseq, -⟩
    cases hseq
  obtain ⟨hnow, hlater⟩ := (refuses_after_act hbuilt ⟨_, rfl⟩ (by decide) (by decide) hcheck hact).1 hlone
  exact ⟨s₁, s₂, hcheck, hact, hnow, fun s hs hstands => hlater s hs hstands nofun⟩

/-- The verb expects an agent, and its own token is in the nominative. -/
def departure : Lexicon :=
  Lexicon.empty.replay [.create "go" (some (.pos "VERB")), .create "AGT" none, .append ⟨0, 1⟩ ⟨1, 1⟩ 1,
    .addStatic [⟨0, 1⟩], .create "go" (some (.kr ⟨"NOUN", [⟨"CAS", "NOM"⟩]⟩)), .addActive [⟨2, 1⟩]]

def departing : VerbRule :=
  let arguments : List Argument := [⟨"AGT", 1, .pos (DeepCases.caseFeature ["NOM"])⟩]
  ⟨"go", some (.pos "VERB"), arguments, VerbRule.hypercube "go" arguments⟩

/-- The token alone is accepted and acted on, and then acted on again: nothing is ever linked that the last check
could see. -/
theorem acts_again_departure :
    VerbRule.ofLexicon? departure "go" .default = .ok (some departing) ∧ departure.Reachable ∧
    departure.graph.contains ⟨2, 1⟩ = true ∧
    ∃ s₁ s₂ s₃, Rule.checkNow [⟨2, 1⟩] (verb departing, departure) = .ok true s₁ ∧
      Rule.act [⟨2, 1⟩] s₁ = .ok (some [⟨2, 1⟩]) s₂ ∧
      Rule.lastCheck s₂.1 s₂.2.graph [⟨2, 1⟩] = true ∧
      Rule.act [⟨2, 1⟩] s₂ = .ok (some [⟨2, 1⟩]) s₃ := by
  have hrun : Outcome.answer? (checkAndActTwice [⟨2, 1⟩] (verb departing, departure)) =
      some (true, some [⟨2, 1⟩], true, some [⟨2, 1⟩]) := by
    decide +kernel
  exact ⟨rfl, ⟨_, rfl⟩, by decide, checkAndActTwice_ok hrun⟩

/-- A verb that expects an agent, a ticket, and someone at home. -/
def ticketAtHome : Lexicon :=
  Lexicon.empty.replay [.create "go" (some (.pos "VERB")), .create "AGT" none, .append ⟨0, 1⟩ ⟨1, 1⟩ 1,
    .addStatic [⟨0, 1⟩], .create "ticket" none, .create "home" (some (.kr ⟨"NOUN", [⟨"CAS", "NOM"⟩]⟩)),
    .addActive [⟨2, 1⟩, ⟨3, 1⟩]]

/-- A trigger rule whose machines have the name of the verb. -/
def ticketing : TriggerRule :=
  { name := "go", trigger := ["ticket"], call := ⟨"book", []⟩ }

/-- The plugin machine is taken for the verb and gets its control, and holds the ticket as before.  Then the trigger
rule makes another machine of the ticket. -/
theorem triggers_again_ticketAtHome :
    VerbRule.ofLexicon? ticketAtHome "go" .default = .ok (some departing) ∧ ticketAtHome.Reachable ∧
    ∃ s₁ s₂ t₁ t₂ s₃, Rule.checkNow [⟨2, 1⟩] (trigger ticketing, ticketAtHome) = .ok true s₁ ∧
      Rule.act [⟨2, 1⟩] s₁ = .ok (some [⟨4, 1⟩]) s₂ ∧
      Rule.checkNow [⟨3, 1⟩] (verb departing, s₂.2) = .ok true t₁ ∧
      Rule.act [⟨3, 1⟩] t₁ = .ok (some [⟨4, 1⟩]) t₂ ∧
      (t₂.2.graph.find? ⟨4, 1⟩).map (fun m => (m.control, m.parts)) =
        some (some (.pos "VERB"), [[⟨2, 1⟩], [⟨3, 1⟩]]) ∧
      Rule.lastCheck s₂.1 t₂.2.graph [⟨2, 1⟩] = true ∧
      Rule.act [⟨2, 1⟩] (s₂.1, t₂.2) = .ok (some [⟨5, 1⟩]) s₃ := by
  refine ⟨rfl, ⟨_, rfl⟩, _, _, _, _, _, Outcome.eq_of_answer? ?_, Outcome.eq_of_answer? ?_, Outcome.eq_of_answer? ?_,
    Outcome.eq_of_answer? ?_, ?_, ?_, Outcome.eq_of_answer? ?_⟩
  all_goals decide +kernel

end MeaningGraph.Construction
