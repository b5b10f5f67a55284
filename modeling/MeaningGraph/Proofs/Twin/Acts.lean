/-
# Acts on twins

What a rule does, it does on both sides: the machines it makes are paired, the links it draws are drawn
between paired machines, and it answers with paired active machines.

`Runs base p w s t` is said of two runs of one rule beside a lexicon each: the lexica are twins, the rules
are, and `p` is their program still.
-/
import MeaningGraph.Proofs.Twin.Rule

namespace MeaningGraph

open List (Forall₂)

/-! ## Acts on the lexicon -/

namespace Lexicon.Twin

variable {base l₁ l₂ : Lexicon} {w : World} {a b : MachineId} {as bs : List MachineId}

theorem active_le (h : Twin base w l₁ l₂) (has : Forall₂ w.active as bs) : Forall₂ w.own as bs :=
  has.imp fun _ _ => h.own_of_active

theorem append_act (h : Twin base w l₁ l₂) (has : Forall₂ w.active as bs) (r : AppendRule) :
    Agree base (fun w' x y => Option.Rel (Forall₂ w'.active) x y) w (r.act as l₁) (r.act bs l₂) := by
  have hlast := h.alike.append_lastCheck_eq h.unique (h.active_le has) r
  cases hlast₁ : r.lastCheck l₁.graph as with
  | false =>
    rw [r.act_of_not_lastCheck hlast₁, r.act_of_not_lastCheck (hlast ▸ hlast₁)]
    exact .ok h .none
  | true =>
    cases has with
    | nil => cases hlast₁
    | @cons a b _ _ hab has =>
      cases has with
      | nil => cases hlast₁
      | @cons c d _ _ hcd has =>
        cases has with
        | cons _ _ => cases hlast₁
        | nil =>
          have hcheck : r.check l₁.graph [a, c] = r.check l₂.graph [b, d] := by
            unfold AppendRule.check
            rw [h.alike.scan_eq (h.active_le (.cons hab (.cons hcd .nil)))]
          obtain ⟨hmod, hhead⟩ := r.roles_paired hab hcd
          rw [r.act_pair, r.act_pair, ← hlast, ← hcheck]
          split
          · refine (h.append (h.own_of_active hhead) (h.own_of_active hmod) r.partition).bind
              fun w' _ _ s t hw h' _ => ?_
            exact .pure h' (.some (.cons (hw.2 _ _ hhead) .nil))
          · exact .ok h .none

theorem hold (h : Twin base w l₁ l₂) (hab : w.own a b) (has : Forall₂ w.own as bs) :
    Agree base (fun _ _ _ => True) w (TriggerRule.hold a as l₁) (TriggerRule.hold b bs l₂) := by
  induction as generalizing w l₁ l₂ bs with
  | nil =>
    cases has
    exact .pure h trivial
  | cons c as ih =>
    cases has with
    | cons hcd has =>
      refine (h.append hab hcd 0).bind fun w' _ _ s t hw h' _ => ?_
      exact ih h' (hw.1 _ _ hab) (has.imp hw.1)

theorem trigger_act (h : Twin base w l₁ l₂) (has : Forall₂ w.active as bs) (r : TriggerRule) :
    Agree base (fun w' x y => Option.Rel (Forall₂ w'.active) x y) w (r.act as l₁) (r.act bs l₂) := by
  rw [r.act_eq, r.act_eq, get_bind, get_bind, h.alike.trigger_lastCheck_eq (h.active_le has)]
  split
  · unfold TriggerRule.make
    refine (h.create _ _).bind fun w₁ a b s₁ t₁ hw₁ h₁ hab => ?_
    refine (h₁.hold hab ((h.active_le has).imp hw₁.1)).bind fun w₂ _ _ s₂ t₂ hw₂ h₂ _ => ?_
    refine (h₂.addActive (.cons (hw₂.1 _ _ hab) .nil)).bind fun w₃ _ _ s₃ t₃ _ h₃ hact => ?_
    exact .pure h₃ (.some hact)
  · exact .pure h .none

/-! ### Verbs -/

theorem split (h : Twin base w l₁ l₂) (has : Forall₂ w.active as bs) (r : VerbRule) :
    ∃ x y, r.split l₁.graph as = .ok x ∧ r.split l₂.graph bs = .ok y ∧
      Option.Rel w.active x.1 y.1 ∧ Forall₂ w.active x.2 y.2 := by
  induction has with
  | nil => exact ⟨_, _, rfl, rfl, .none, .nil⟩
  | @cons a b as bs hab has ih =>
    obtain ⟨m₁, m₂, h₁, h₂, halike⟩ := h.find? (h.own_of_active hab)
    unfold VerbRule.split
    rw [Graph.name_of_find? h₁, Graph.name_of_find? h₂, halike.name]
    by_cases hname : m₂.name = r.verb
    · exact ⟨(some a, as), (some b, bs), by simp [hname, bind, Except.bind, pure, Except.pure],
        by simp [hname, bind, Except.bind, pure, Except.pure], .some hab, has⟩
    · obtain ⟨x, y, hx, hy, htoken, hrest⟩ := ih
      exact ⟨(x.1, a :: x.2), (y.1, b :: y.2),
        by simp [hname, hx, bind, Except.bind, pure, Except.pure],
        by simp [hname, hy, bind, Except.bind, pure, Except.pure], htoken, .cons hab hrest⟩

theorem assign_eq (h : Twin base w l₁ l₂) (has : Forall₂ w.own as bs) (r : VerbRule)
    (used : List Nat) : r.assign l₁.graph as used = r.assign l₂.graph bs used := by
  induction has generalizing used with
  | nil => rfl
  | cons hab _ ih =>
    unfold VerbRule.assign
    simp only [ih, h.alike.accepts_eq hab]

theorem link (h : Twin base w l₁ l₂) (hab : w.own a b) (has : Forall₂ w.own as bs) (r : VerbRule)
    (slots : List Nat) :
    Agree base (fun _ _ _ => True) w (r.link a (as.zip slots) l₁) (r.link b (bs.zip slots) l₂) := by
  induction as generalizing w l₁ l₂ bs slots with
  | nil =>
    cases has
    exact .pure h trivial
  | cons c as ih =>
    cases has with
    | @cons _ d _ bs hcd has =>
      cases slots with
      | nil => exact .pure h trivial
      | cons k slots =>
        rw [List.zip_cons_cons, List.zip_cons_cons, VerbRule.link, VerbRule.link]
        cases r.arguments[k]? with
        | none => exact ih h hab has slots
        | some argument =>
          refine (h.append hab hcd argument.partition).bind fun w' _ _ s t hw h' _ => ?_
          exact ih h' (hw.1 _ _ hab) (has.imp hw.1) slots

theorem linkAll (h : Twin base w l₁ l₂) (hab : w.active a b) (has : Forall₂ w.own as bs)
    (r : VerbRule) (control : Option Control) (slots : List Nat) :
    Agree base (fun w' x y => Option.Rel (Forall₂ w'.active) x y) w (r.linkAll a control as slots l₁)
      (r.linkAll b control bs slots l₂) := by
  unfold VerbRule.linkAll
  have hown := h.own_of_active hab
  refine (h.setControl hown control).bind fun w₁ _ _ s₁ t₁ hw₁ h₁ _ => ?_
  refine (h₁.link (hw₁.1 _ _ hown) (has.imp hw₁.1) r slots).bind fun w₂ _ _ s₂ t₂ hw₂ h₂ _ => ?_
  exact .pure h₂ (.some (.cons (hw₂.2 _ _ (hw₁.2 _ _ hab)) .nil))

theorem verb_act (h : Twin base w l₁ l₂) (has : Forall₂ w.active as bs) (r : VerbRule) :
    Agree base (fun w' x y => Option.Rel (Forall₂ w'.active) x y) w (r.act as l₁) (r.act bs l₂) := by
  rw [r.act_eq, r.act_eq, get_bind, get_bind, h.alike.verb_lastCheck_eq h.unique (h.active_le has)]
  split
  · obtain ⟨⟨token₁, ids₁⟩, ⟨token₂, ids₂⟩, hx, hy, htoken, hids⟩ := h.split has r
    rw [ask_bind hx, ask_bind hy]
    have hverb : Option.Rel w.active (token₁ <|> l₁.firstInstance? r.verb)
        (token₂ <|> l₂.firstInstance? r.verb) := by
      cases htoken with
      | some hxy => exact .some hxy
      | none => exact h.firstInstance? r.verb
    have hcontrol : r.controlFor l₁.graph token₁ = r.controlFor l₂.graph token₂ := by
      cases htoken with
      | some hxy => exact h.alike.control?_eq (h.own_of_active hxy)
      | none => rfl
    simp only [hcontrol, h.assign_eq (h.active_le hids) r []]
    generalize (token₁ <|> l₁.firstInstance? r.verb) = x at hverb
    generalize (token₂ <|> l₂.firstInstance? r.verb) = y at hverb
    cases hverb with
    | none => exact .pure h .none
    | some hab =>
      cases hassign : r.assign l₂.graph ids₂ [] with
      | some slots => exact h.linkAll hab (h.active_le hids) r _ slots
      | none =>
        obtain ⟨e₁, he₁, hne₁⟩ := r.failStray_fails (r.stray l₁.graph ids₁) l₁
        obtain ⟨e₂, he₂, hne₂⟩ := r.failStray_fails (r.stray l₂.graph ids₂) l₂
        change Agree base _ w (r.failStray (r.stray l₁.graph ids₁) l₁) (r.failStray (r.stray l₂.graph ids₂) l₂)
        rw [he₁, he₂]
        exact h.error (iff_of_false hne₁ hne₂)
  · exact .pure h .none

end Lexicon.Twin

/-! ## One rule beside a lexicon -/

namespace Construction

/-- The lexicon works beside the background, and the rule has kept its program. -/
structure Confined (base : Lexicon) (p : Construction) (s : Construction × Lexicon) : Prop where
  lexicon : Lexicon.Confined base s.2
  program : s.1.program = p

/-- Two runs of one rule, each beside its lexicon. -/
structure Runs (base : Lexicon) (p : Construction) (w : World) (s t : Construction × Lexicon) :
    Prop where
  lexica : Lexicon.Twin base w s.2 t.2
  rules : Twin w.own s.1 t.1
  program : s.1.program = p

/-- Outcomes of one operation of two runs. -/
abbrev Agree {α : Type} (base : Lexicon) (p : Construction) (V : World → α → α → Prop) (w : World) :
    EStateM.Result Error (Construction × Lexicon) α →
      EStateM.Result Error (Construction × Lexicon) α → Prop :=
  Outcome.Agree (Runs base p) (fun s t => Confined base p s ∧ Confined base p t) V w

namespace Runs

variable {base l₁ l₂ : Lexicon} {p c₁ c₂ : Construction} {w : World} {as bs : List MachineId}
  {s t : Construction × Lexicon} {α : Type} {V : World → α → α → Prop}

theorem left (h : Runs base p w s t) : Confined base p s :=
  ⟨h.lexica.left, h.program⟩

theorem right (h : Runs base p w s t) : Confined base p t :=
  ⟨h.lexica.right, h.rules.program_eq ▸ h.program⟩

theorem onLexica (h : Runs base p w (c₁, l₁) (c₂, l₂)) {x y : LexiconM α}
    (hxy : Lexicon.Agree base V w (x l₁) (y l₂)) :
    Agree base p V w (Rule.onPart (Prod.mk c₁) x l₁) (Rule.onPart (Prod.mk c₂) y l₂) := by
  refine hxy.onPart (fun w' _ _ hw h' => ⟨h', h.rules.mono hw.1, h.program⟩)
    (fun _ _ he => ⟨⟨he.1, h.left.program⟩, he.2, h.right.program⟩) fun _ _ _ _ hV => hV

theorem ok (h : Runs base p w (c₁, l₁) (c₂, l₂)) {c₁' c₂' : Construction} {x y : α}
    (hc : Twin w.own c₁' c₂') (hp : c₁'.program = c₁.program) (hV : V w x y) :
    Agree base p V w (.ok x (c₁', l₁) : EStateM.Result Error (Construction × Lexicon) α)
      (.ok y (c₂', l₂)) :=
  Outcome.Agree.ok ⟨h.lexica, hc, hp.trans h.program⟩ hV

theorem checkNow (h : Runs base p w s t) (has : Forall₂ w.active as bs) :
    Agree base p (fun _ x y => x = y) w (Rule.checkNow as s) (Rule.checkNow bs t) := by
  obtain ⟨c₁, l₁⟩ := s
  obtain ⟨c₂, l₂⟩ := t
  have halike := h.lexica.alike
  have hown := h.lexica.active_le has
  cases h.rules with
  | append r =>
    refine h.ok (.append r) rfl ?_
    change (r.transducer.core.reset.scan l₁.graph as).1 = (r.transducer.core.reset.scan l₂.graph bs).1
    rw [halike.scan_eq hown]
  | trigger r =>
    refine h.ok (.trigger r) rfl ?_
    change (r.automaton.reset.scan l₁.graph as).1 = (r.automaton.reset.scan l₂.graph bs).1
    rw [halike.scan_eq hown]
  | @avm r₁ r₂ hr =>
    refine h.ok (.avm hr) rfl ?_
    change r₁.check l₁.graph as = r₂.check l₂.graph bs
    cases hown with
    | nil => rfl
    | cons hab hrest =>
      cases hrest with
      | nil => exact hr.accepts_eq halike hab
      | cons _ _ => rfl
  | @verb r₁ r₂ hr =>
    have hreset : r₁.automaton.reset = r₂.automaton.reset :=
      Acceptor.reset_eq_of_moveTo (congrArg VerbRule.automaton hr)
    have hfault : r₁.automaton.fault? = r₂.automaton.fault? := by
      show r₁.automaton.reset.fault? = r₂.automaton.reset.fault?
      rw [hreset]
    rw [checkNow_verb, checkNow_verb, hfault]
    cases r₂.automaton.fault? with
    | some fault => exact ⟨Iff.rfl, ⟨h.lexica.left, h.left.program⟩, h.lexica.right, h.right.program⟩
    | none =>
      refine h.ok (.verb ?_) (congrArg verb (r₁.rest_scan l₁.graph as)) ?_
      · rw [r₁.rest_scan, r₂.rest_scan, hr]
      · rw [hreset, halike.scan_eq hown]

/-- Both sides act, and answer with paired active machines. -/
theorem act (h : Runs base p w s t) (has : Forall₂ w.active as bs) :
    Agree base p (fun w' x y => Option.Rel (Forall₂ w'.active) x y) w (Rule.act as s)
      (Rule.act bs t) := by
  obtain ⟨c₁, l₁⟩ := s
  obtain ⟨c₂, l₂⟩ := t
  have hown := h.lexica.active_le has
  cases h.rules with
  | append r =>
    rw [act_append, act_append]
    exact h.onLexica (h.lexica.append_act has r)
  | trigger r =>
    rw [act_trigger, act_trigger]
    exact h.onLexica (h.lexica.trigger_act has r)
  | @verb r₁ r₂ hr =>
    rw [act_verb, act_verb, ← r₁.act_rest, ← r₂.act_rest, hr]
    exact h.onLexica (h.lexica.verb_act has r₂.rest)
  | @avm r₁ r₂ hr =>
    rw [act_avm, act_avm]
    cases has with
    | nil => exact h.ok (.avm hr) rfl .none
    | cons hab hrest =>
      cases hrest with
      | cons _ _ => exact h.ok (.avm hr) rfl .none
      | nil =>
        obtain ⟨hcount, hfill⟩ := hr.fill h.lexica.alike (h.lexica.own_of_active hab)
        refine h.ok (.avm hfill) (program_fill r₁ l₁.graph _) ?_
        change Option.Rel _ (if (r₁.avm.fill l₁.graph _).1 = 0 then none else _)
          (if (r₂.avm.fill l₂.graph _).1 = 0 then none else _)
        rw [hcount]
        split
        · exact .none
        · exact .some (.cons hab .nil)

theorem refused?_rel (h : Runs base p w s t) (has : Forall₂ w.own as bs) :
    Option.Rel (Forall₂ w.own) (Rule.refused? s.1 s.2.graph as) (Rule.refused? t.1 t.2.graph bs) := by
  obtain ⟨c₁, l₁⟩ := s
  obtain ⟨c₂, l₂⟩ := t
  have halike := h.lexica.alike
  cases h.rules with
  | append r => exact halike.refused?_rel has r.transducer.core.reset
  | trigger r => exact halike.refused?_rel has r.automaton.reset
  | avm _ => exact .none
  | @verb r₁ r₂ hr =>
    have hreset : r₁.automaton.reset = r₂.automaton.reset :=
      Acceptor.reset_eq_of_moveTo (congrArg VerbRule.automaton hr)
    change Option.Rel _ (r₁.automaton.reset.refused? l₁.graph as) (r₂.automaton.reset.refused? l₂.graph bs)
    rw [hreset]
    exact halike.refused?_rel has r₂.automaton.reset

end Runs

theorem Twin.filledSlots_eq {v : Pairing} {c₁ c₂ : Construction} (h : Twin v c₁ c₂) :
    Rule.filledSlots c₁ = Rule.filledSlots c₂ := by
  cases h with
  | append r => rfl
  | trigger r => rfl
  | verb h => rfl
  | avm h => exact h.filledCount_eq

theorem Twin.message?_eq {v : Pairing} {c₁ c₂ : Construction} {g₁ g₂ : Graph} (h : Twin v c₁ c₂)
    (hg : Graph.Paired v g₁ g₂) : Rule.message? c₁ g₁ = Rule.message? c₂ g₂ := by
  cases h with
  | append r => rfl
  | trigger r => rfl
  | verb h => rfl
  | @avm r₁ r₂ h =>
    change (if r₁.avm.isSatisfied then some (Message.mk r₁.name (r₁.avm.toTable g₁)) else none) =
      if r₂.avm.isSatisfied then some ⟨r₂.name, r₂.avm.toTable g₂⟩ else none
    rw [h.isSatisfied_eq, h.name, h.toTable_eq hg]

end Construction

end MeaningGraph
