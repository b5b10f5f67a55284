/-
# What the rules do

The acts of the rules, each written as a guard and a chain of changes.  An append rule acts on a pair of
machines that its check takes and that is not linked yet, and then appends the modifier to the head; the
transducer by which it does so leaves no other trace.

The program of a rule is the part of it that no analysis changes: all but the active states of a verb's
automaton and the machines in the slots of a matrix.  A check may move a verb's automaton, but its answer
depends on the program alone, as the automaton is started afresh.
-/
import MeaningGraph.Proofs.Acceptor
import MeaningGraph.Proofs.Lexicon.Sound
import MeaningGraph.Rule.Construction
import MeaningGraph.Rule.Set

namespace MeaningGraph

open Outcome (state steps_of_ok)

/-! ## Append rules -/

namespace AppendRule

variable {r : AppendRule} {l : Lexicon} {first second : MachineId} {seq : List MachineId}

/-- The matchers of the first and of the second machine. -/
def matchers (r : AppendRule) : Matcher × Matcher :=
  match r.direction with
  | .modifierFirst => (r.modifier, r.head)
  | .headFirst => (r.head, r.modifier)

/-- The operator of the second edge. -/
def operator (r : AppendRule) : Operator :=
  match r.direction with
  | .modifierFirst => .appendEarlier 0 r.partition
  | .headFirst => .appendToEarlier 0 r.partition

theorem transducer_eq (r : AppendRule) :
    r.transducer =
      { core :=
          { stateCount := 3, init := [0], final := [2]
            edges := [⟨0, r.matchers.1, 1⟩, ⟨1, r.matchers.2, 2⟩], active := [] }
        operators := [((1, 0), [r.operator])]
        register := [] } := by
  unfold transducer matchers operator
  cases r.direction <;> rfl

theorem check_pair (r : AppendRule) (g : Graph) (first second : MachineId) :
    r.check g [first, second] =
      (r.matchers.1.accepts g first && r.matchers.2.accepts g second) := by
  unfold check
  rw [transducer_eq]
  cases h₁ : r.matchers.1.accepts g first <;> cases h₂ : r.matchers.2.accepts g second <;>
    simp [Acceptor.reset, Acceptor.scan, Acceptor.step, Acceptor.opened, Acceptor.edgesFrom,
      Acceptor.moveTo, Acceptor.states, SortedList.ofList, SortedList.insert, Acceptor.atFinal, h₁, h₂]

/-- The transducer after it read machines: the active states, and the register. -/
def after (r : AppendRule) (states : List Nat) (register : List MachineId) : Transducer :=
  { r.transducer with core := r.transducer.core.moveTo states, register }

theorem readLive_first (r : AppendRule) (g : Graph) (first : MachineId) :
    Transducer.readLive first (r.transducer.reset, g) =
      .ok () (r.after (if r.matchers.1.accepts g first then [1] else []) [first], g) := by
  unfold after
  rw [transducer_eq]
  cases h₁ : r.matchers.1.accepts g first
  · simp [Transducer.readLive, Transducer.reset, Acceptor.reset, Acceptor.fault?, Acceptor.opened,
      Acceptor.edgesFrom, Acceptor.moveTo, Transducer.perform, h₁]
  · simp [Transducer.readLive, Transducer.reset, Acceptor.reset, Acceptor.fault?, Acceptor.opened,
      Acceptor.edgesFrom, Acceptor.moveTo, Transducer.operatorsOf, h₁]
    rfl

theorem readLive_second (r : AppendRule) (g : Graph) (first second : MachineId)
    (h : r.matchers.2.accepts g second = true) :
    Transducer.readLive second (r.after [1] [first], g) =
      match r.operator.apply [first] second g with
      | .ok g' => .ok () (r.after [2] [first, second], g')
      | .error e => .error e (r.after [1] [first], g) := by
  unfold after
  rw [transducer_eq]
  simp [Transducer.readLive, Acceptor.fault?, Acceptor.opened, Acceptor.edgesFrom, Acceptor.states,
    SortedList.ofList, SortedList.insert, Acceptor.moveTo, Transducer.operatorsOf, Transducer.perform, h]
  cases r.operator.apply [first] second g <;> rfl

theorem readLive_lost (r : AppendRule) (g : Graph) {states : List Nat} (first second : MachineId)
    (h : states = [] ∨ states = [1] ∧ r.matchers.2.accepts g second = false) :
    Transducer.readLive second (r.after states [first], g) =
      .ok () (r.after [] [first, second], g) := by
  unfold after
  rw [transducer_eq]
  rcases h with rfl | ⟨rfl, h⟩
  · simp [Transducer.readLive, Acceptor.fault?, Acceptor.opened, Acceptor.states, SortedList.ofList,
      Acceptor.moveTo, Transducer.perform]
  · simp [Transducer.readLive, Acceptor.fault?, Acceptor.opened, Acceptor.edgesFrom, Acceptor.states,
      SortedList.ofList, SortedList.insert, Acceptor.moveTo, Transducer.perform, h]

theorem apply_operator (r : AppendRule) (g : Graph) (first second : MachineId) :
    r.operator.apply [first] second g =
      g.append (r.roles first second).2 (r.roles first second).1 r.partition := by
  unfold operator roles
  cases r.direction <;> rfl

theorem readAll_pair (r : AppendRule) (g : Graph) (first second : MachineId) :
    Transducer.readAll [first, second] (r.transducer.reset, g) =
      if r.check g [first, second] then
        match g.append (r.roles first second).2 (r.roles first second).1 r.partition with
        | .ok g' => .ok () (r.after [2] [first, second], g')
        | .error e => .error e (r.after [1] [first], g)
      else .ok () (r.after [] [first, second], g) := by
  change EStateM.bind (Transducer.readLive first)
    (fun _ => EStateM.bind (Transducer.readLive second) fun _ => pure ()) (r.transducer.reset, g) = _
  simp only [EStateM.bind, readLive_first, check_pair]
  cases h₁ : r.matchers.1.accepts g first with
  | false =>
    rw [readLive_lost r g first second (.inl (if_neg Bool.false_ne_true))]
    rfl
  | true =>
    rw [if_pos rfl, Bool.true_and]
    cases h₂ : r.matchers.2.accepts g second with
    | false =>
      rw [readLive_lost r g first second (.inr ⟨rfl, h₂⟩)]
      rfl
    | true =>
      rw [readLive_second r g first second h₂, apply_operator, if_pos rfl]
      cases g.append (r.roles first second).2 (r.roles first second).1 r.partition <;> rfl

/-- On a pair that the check takes and the links allow, the rule appends the modifier to the head; on any
other it does nothing. -/
theorem act_pair (r : AppendRule) (l : Lexicon) (first second : MachineId) :
    r.act [first, second] l =
      if r.lastCheck l.graph [first, second] && r.check l.graph [first, second] then
        (Lexicon.changeGraph (·.append (r.roles first second).2 (r.roles first second).1 r.partition) >>=
          fun _ => pure (some [(r.roles first second).2])) l
      else .ok none l := by
  unfold act
  rw [readAll_pair]
  cases r.lastCheck l.graph [first, second] with
  | false => rfl
  | true =>
    rw [Bool.true_and]
    cases r.check l.graph [first, second] with
    | false =>
      have hfinal : (r.after [] [first, second]).core.atFinal = false := by
        rw [after, transducer_eq]
        rfl
      simp [hfinal]
    | true =>
      have hfinal : (r.after [2] [first, second]).core.atFinal = true := by
        rw [after, transducer_eq]
        rfl
      change _ = EStateM.bind (Lexicon.changeGraph _) _ l
      simp only [if_true, EStateM.bind, Lexicon.changeGraph]
      cases l.graph.append (r.roles first second).2 (r.roles first second).1 r.partition with
      | error e => rfl
      | ok g => simp [hfinal, pure, EStateM.pure]

theorem lastCheck_of_ne_pair {g : Graph} (h : ∀ first second, seq ≠ [first, second]) :
    r.lastCheck g seq = false := by
  unfold lastCheck
  split
  · exact absurd rfl (h _ _)
  · rfl

theorem act_of_not_lastCheck (h : r.lastCheck l.graph seq = false) : r.act seq l = .ok none l := by
  unfold act
  rw [h]
  rfl

theorem eq_of_act_none {l' : Lexicon} (h : r.act seq l = .ok none l') : l' = l := by
  by_cases hpair : ∃ first second, seq = [first, second]
  · obtain ⟨first, second, rfl⟩ := hpair
    rw [act_pair] at h
    split at h
    · obtain ⟨_, l₁, -, hanswer⟩ := steps_of_ok h
      cases hanswer
    · cases h
      rfl
  · have hlast : r.lastCheck l.graph seq = false :=
      lastCheck_of_ne_pair fun first second hseq => hpair ⟨first, second, hseq⟩
    rw [act_of_not_lastCheck hlast] at h
    cases h
    rfl

end AppendRule

/-! ## Verb rules -/

namespace VerbRule

/-- Fails with the name of the machine that no argument takes. -/
def failStray (r : VerbRule) (stray : Option MachineId) : LexiconM (Option (List MachineId)) :=
  (match stray with
    | some id => Lexicon.ask (·.graph.name id)
    | none => pure "") >>= fun name => throw (.unknownDeepCase r.verb name)

/-- Sets the control of the verb and links the machines, each to its argument. -/
def linkAll (r : VerbRule) (verb : MachineId) (control : Option Control)
    (ids : List MachineId) (slots : List Nat) : LexiconM (Option (List MachineId)) :=
  Lexicon.changeGraph (·.setControl verb control) >>= fun _ =>
    r.link verb (ids.zip slots) >>= fun _ => pure (some [verb])

/-- The control that the verb gets. -/
def controlFor (r : VerbRule) (g : Graph) (token : Option MachineId) : Option Control :=
  match token with
  | some token => g.control? token
  | none => r.control

theorem act_eq (r : VerbRule) (seq : List MachineId) :
    r.act seq =
      get >>= fun l =>
        if r.lastCheck l.graph seq then
          Lexicon.ask (fun l => r.split l.graph seq) >>= fun found =>
            match found.1 <|> l.firstInstance? r.verb with
            | none => pure none
            | some verb =>
              match r.assign l.graph found.2 [] with
              | none => r.failStray (r.stray l.graph found.2)
              | some slots => r.linkAll verb (r.controlFor l.graph found.1) found.2 slots
        else pure none := by
  unfold act
  congr 1
  funext l
  cases r.lastCheck l.graph seq with
  | false => rfl
  | true =>
    simp only [Bool.not_true, Bool.false_eq_true, if_false, if_true]
    congr 1
    funext found
    obtain ⟨token, ids⟩ := found
    cases hverb : (token <|> l.firstInstance? r.verb) with
    | none => rfl
    | some verb =>
      simp only
      cases hassign : r.assign l.graph ids [] with
      | none =>
        simp only
        unfold failStray
        cases r.stray l.graph ids <;> rfl
      | some slots => rfl

theorem failStray_fails (r : VerbRule) (stray : Option MachineId) (l : Lexicon) :
    ∃ e, r.failStray stray l = .error e l ∧ e ≠ .overflow := by
  cases stray with
  | none => exact ⟨.unknownDeepCase r.verb "", rfl, Error.noConfusion⟩
  | some id =>
    cases hlive : l.graph.contains id with
    | false => exact ⟨.stale id, Lexicon.ask_bind_error (Graph.name_of_not_contains hlive), Error.noConfusion⟩
    | true =>
      obtain ⟨m, hm⟩ := Graph.contains_iff.1 hlive
      exact ⟨.unknownDeepCase r.verb m.name, Lexicon.ask_bind (Graph.name_of_find? hm), Error.noConfusion⟩

theorem act_of_not_lastCheck {r : VerbRule} {seq : List MachineId} {l : Lexicon}
    (h : r.lastCheck l.graph seq = false) : r.act seq l = .ok none l := by
  rw [act_eq, Lexicon.get_bind, h]
  rfl

/-- An act that succeeds has done nothing, or has linked the machines beside the token. -/
theorem act_cases {r : VerbRule} {seq : List MachineId} {l l' : Lexicon} {answer : Option (List MachineId)}
    (h : r.act seq l = .ok answer l') :
    (answer = none ∧ l' = l) ∨
    ∃ token ids verb slots, r.split l.graph seq = .ok (token, ids) ∧
      (token <|> l.firstInstance? r.verb) = some verb ∧ r.assign l.graph ids [] = some slots ∧
      r.linkAll verb (r.controlFor l.graph token) ids slots l = .ok answer l' := by
  rw [act_eq, Lexicon.get_bind] at h
  split at h
  · obtain ⟨⟨token, ids⟩, l₁, hsplit, h⟩ := steps_of_ok h
    obtain ⟨hsplit, rfl⟩ := Lexicon.ask_ok hsplit
    cases hverb : (token <|> l₁.firstInstance? r.verb) with
    | none =>
      rw [hverb] at h
      cases h
      exact .inl ⟨rfl, rfl⟩
    | some verb =>
      rw [hverb] at h
      cases hslots : r.assign l₁.graph ids [] with
      | none =>
        simp only [hslots] at h
        obtain ⟨e, he, -⟩ := r.failStray_fails (r.stray l₁.graph ids) l₁
        rw [he] at h
        cases h
      | some slots =>
        simp only [hslots] at h
        exact .inr ⟨token, ids, verb, slots, hsplit, hverb, hslots, h⟩
  · cases h
    exact .inl ⟨rfl, rfl⟩

theorem linkAll_cases {r : VerbRule} {verb : MachineId} {control : Option Control} {ids : List MachineId}
    {slots : List Nat} {l l' : Lexicon} {answer : Option (List MachineId)}
    (h : r.linkAll verb control ids slots l = .ok answer l') :
    answer = some [verb] ∧ ∃ l₁, Lexicon.changeGraph (·.setControl verb control) l = .ok () l₁ ∧
      r.link verb (ids.zip slots) l₁ = .ok () l' := by
  obtain ⟨_, l₁, hset, h⟩ := steps_of_ok h
  obtain ⟨_, l₂, hlink, h⟩ := steps_of_ok h
  cases h
  exact ⟨rfl, l₁, hset, hlink⟩

theorem eq_of_act_none {r : VerbRule} {seq : List MachineId} {l l' : Lexicon}
    (h : r.act seq l = .ok none l') : l' = l := by
  rcases act_cases h with ⟨-, heq⟩ | ⟨token, ids, verb, slots, -, -, -, hlink⟩
  · exact heq
  · cases (linkAll_cases hlink).1

end VerbRule

/-! ## Trigger rules -/

namespace TriggerRule

/-- Makes the plugin machine of a sequence. -/
def make (r : TriggerRule) (seq : List MachineId) : LexiconM (Option (List MachineId)) :=
  Lexicon.create r.name (some (.plugin r.call)) >>= fun plugin => hold plugin seq >>= fun _ =>
    Lexicon.addActive [plugin] >>= fun _ => pure (some [plugin])

theorem act_eq (r : TriggerRule) (seq : List MachineId) :
    r.act seq =
      get >>= fun l => if r.lastCheck l.graph seq then r.make seq else pure none := by
  unfold act
  congr 1
  funext l
  cases r.lastCheck l.graph seq with
  | false => rfl
  | true => rfl

theorem act_of_not_lastCheck {r : TriggerRule} {seq : List MachineId} {l : Lexicon}
    (h : r.lastCheck l.graph seq = false) : r.act seq l = .ok none l := by
  rw [act_eq, Lexicon.get_bind, h]
  rfl

/-- An act that succeeds has done nothing, or has made a machine that holds the sequence, and answers that. -/
theorem act_cases {r : TriggerRule} {seq : List MachineId} {l l' : Lexicon} {answer : Option (List MachineId)}
    (h : r.act seq l = .ok answer l') :
    (answer = none ∧ l' = l) ∨
    ∃ plugin l₁ l₂, answer = some [plugin] ∧
      Lexicon.create r.name (some (.plugin r.call)) l = .ok plugin l₁ ∧ hold plugin seq l₁ = .ok () l₂ ∧
      Lexicon.addActive [plugin] l₂ = .ok () l' := by
  rw [act_eq, Lexicon.get_bind] at h
  split at h
  · obtain ⟨plugin, l₁, hcreate, h⟩ := steps_of_ok h
    obtain ⟨_, l₂, hhold, h⟩ := steps_of_ok h
    obtain ⟨_, l₃, hactive, h⟩ := steps_of_ok h
    cases h
    exact .inr ⟨plugin, l₁, l₂, rfl, hcreate, hhold, hactive⟩
  · cases h
    exact .inl ⟨rfl, rfl⟩

theorem eq_of_act_none {r : TriggerRule} {seq : List MachineId} {l l' : Lexicon}
    (h : r.act seq l = .ok none l') : l' = l := by
  rcases act_cases h with ⟨-, heq⟩ | ⟨plugin, l₁, l₂, hanswer, -⟩
  · exact heq
  · cases hanswer

end TriggerRule

/-! ## Programs and checks -/

namespace Rule

variable {σ τ α : Type} {inject : σ → τ} {x : EStateM Error σ α} {s : σ}

theorem state_onPart (inject : σ → τ) (x : EStateM Error σ α) (s : σ) :
    state (onPart inject x s) = inject (state (x s)) := by
  unfold onPart
  cases x s <;> rfl

theorem onPart_ok {a : α} {t : τ} (h : onPart inject x s = .ok a t) :
    ∃ s', x s = .ok a s' ∧ t = inject s' := by
  unfold onPart at h
  cases hx : x s with
  | error e s' =>
    rw [hx] at h
    cases h
  | ok b s' =>
    rw [hx] at h
    cases h
    exact ⟨s', rfl, rfl⟩

theorem onPart_of_ok {a : α} {s' : σ} (h : x s = .ok a s') :
    onPart inject x s = .ok a (inject s') := by
  unfold onPart
  rw [h]

end Rule

namespace VerbRule

variable {r : VerbRule} {g : Graph}

/-- The rule with its automaton in no state. -/
def rest (r : VerbRule) : VerbRule :=
  { r with automaton := r.automaton.moveTo [] }

theorem rest_scan (r : VerbRule) (g : Graph) (seq : List MachineId) :
    rest { r with automaton := (r.automaton.reset.scan g seq).2 } = r.rest := by
  unfold rest
  rw [Acceptor.moveTo_scan]
  rfl

theorem split_rest (r : VerbRule) (g : Graph) (ids : List MachineId) :
    r.rest.split g ids = r.split g ids := by
  induction ids with
  | nil => rfl
  | cons id ids ih =>
    unfold split
    rw [ih]
    rfl

theorem assign_rest (r : VerbRule) (g : Graph) (ids : List MachineId) (used : List Nat) :
    r.rest.assign g ids used = r.assign g ids used := by
  induction ids generalizing used with
  | nil => rfl
  | cons id ids ih =>
    unfold assign
    simp only [ih]
    rfl

theorem link_rest (r : VerbRule) (verb : MachineId) (links : List (MachineId × Nat)) :
    r.rest.link verb links = r.link verb links := by
  induction links with
  | nil => rfl
  | cons link links ih =>
    unfold VerbRule.link
    rw [ih]
    rfl

/-- What the rule does has nothing to do with its automaton. -/
theorem act_rest (r : VerbRule) (seq : List MachineId) : r.rest.act seq = r.act seq := by
  rw [act_eq, act_eq]
  unfold linkAll
  simp only [split_rest, assign_rest, link_rest]
  rfl

end VerbRule

namespace Construction

/-- The part of a rule that no analysis changes. -/
def program : Construction → Construction
  | .append r => .append r
  | .verb r => .verb r.rest
  | .trigger r => .trigger r
  | .avm r => .avm (Rule.reset r)

variable {g : Graph} {l : Lexicon} {seq : List MachineId}

theorem kind_program (c : Construction) : Rule.kind c.program = Rule.kind c := by
  cases c <;> rfl

theorem exists_verb_of_program {c : Construction} {r : VerbRule} (h : c.program = (verb r).program) :
    ∃ r', c = .verb r' ∧ r'.rest = r.rest := by
  cases c with
  | verb r' => exact ⟨r', rfl, Construction.verb.inj h⟩
  | append r' => cases h
  | trigger r' => cases h
  | avm r' => cases h

theorem checkNow_verb (r : VerbRule) :
    Rule.checkNow seq (Construction.verb r, l) =
      match r.automaton.fault? with
      | some fault => .error (.automaton fault) (.verb { r with automaton := r.automaton.reset }, l)
      | none =>
        .ok (r.automaton.reset.scan l.graph seq).1
          (.verb { r with automaton := (r.automaton.reset.scan l.graph seq).2 }, l) := by
  have hreset : r.automaton.reset.fault? = r.automaton.fault? := rfl
  cases hfault : r.automaton.fault? with
  | some fault =>
    simp only [Rule.checkNow, Rule.onPart, Rule.check, Acceptor.accepts, hreset, hfault]
  | none =>
    simp only [Rule.checkNow, Rule.onPart, Rule.check, Acceptor.accepts, hreset, hfault]

theorem program_checkNow (c : Construction) (seq : List MachineId) (l : Lexicon) :
    (state (Rule.checkNow seq (c, l))).1.program = c.program ∧
      (state (Rule.checkNow seq (c, l))).2 = l := by
  cases c with
  | append r => exact ⟨rfl, rfl⟩
  | trigger r => exact ⟨rfl, rfl⟩
  | avm r => exact ⟨rfl, rfl⟩
  | verb r =>
    rw [checkNow_verb]
    cases r.automaton.fault? with
    | some fault => exact ⟨rfl, rfl⟩
    | none => exact ⟨congrArg verb (r.rest_scan l.graph seq), rfl⟩

theorem program_fill (r : AvmRule) (g : Graph) (id : MachineId) :
    (avm { r with avm := (r.avm.fill g id).2 }).program = (avm r).program := by
  have hslots : ((r.avm.slots.map (·.offer g id)).map fun s => { s with value := none }) =
      r.avm.slots.map fun s => { s with value := none } := by
    rw [List.map_map]
    refine List.map_congr_left ?_
    intro s _
    change { s.offer g id with value := none } = { s with value := none }
    unfold AvmSlot.offer
    split <;> rfl
  exact congrArg (fun slots => Construction.avm ⟨r.name, slots, r.avm.formula⟩) hslots

theorem program_reset (c : Construction) : (Rule.reset c : Construction).program = c.program := by
  cases c with
  | append r => rfl
  | verb r => rfl
  | trigger r => rfl
  | avm r =>
    have hslots : ((r.avm.slots.map fun s => { s with value := none }).map fun s : AvmSlot =>
        { s with value := none }) = r.avm.slots.map fun s => { s with value := none } := by
      rw [List.map_map]
      rfl
    exact congrArg (fun slots => Construction.avm ⟨r.name, slots, r.avm.formula⟩) hslots

/-! The acts of the rules that work on the lexicon alone, and of matrices. -/

theorem onPart_onLexicon {ρ α : Type} (inject : ρ → Construction) (f : ρ → LexiconM α) (r : ρ)
    (l : Lexicon) :
    Rule.onPart (fun s : ρ × Lexicon => (inject s.1, s.2)) (Rule.onLexicon f) (r, l) =
      Rule.onPart (Prod.mk (inject r)) (f r) l := by
  simp only [Rule.onPart, Rule.onLexicon]
  cases f r l <;> rfl

theorem act_append (r : AppendRule) :
    Rule.act seq (append r, l) = Rule.onPart (Prod.mk (append r)) (r.act seq) l :=
  onPart_onLexicon append (·.act seq) r l

theorem act_verb (r : VerbRule) :
    Rule.act seq (verb r, l) = Rule.onPart (Prod.mk (verb r)) (r.act seq) l :=
  onPart_onLexicon verb (·.act seq) r l

theorem act_trigger (r : TriggerRule) :
    Rule.act seq (trigger r, l) = Rule.onPart (Prod.mk (trigger r)) (r.act seq) l :=
  onPart_onLexicon trigger (·.act seq) r l

theorem act_avm (r : AvmRule) :
    Rule.act seq (avm r, l) = .ok (r.act l.graph seq).1 (avm (r.act l.graph seq).2, l) :=
  rfl

/-- A rule that answers with nothing has changed nothing, unless it is a matrix. -/
theorem eq_of_act_none {c : Construction} {t : Construction × Lexicon} (hc : Rule.kind c ≠ .avm)
    (h : Rule.act seq (c, l) = .ok none t) : t = (c, l) := by
  cases c with
  | append r =>
    rw [act_append] at h
    obtain ⟨l', hact, rfl⟩ := Rule.onPart_ok h
    rw [AppendRule.eq_of_act_none hact]
  | verb r =>
    rw [act_verb] at h
    obtain ⟨l', hact, rfl⟩ := Rule.onPart_ok h
    rw [VerbRule.eq_of_act_none hact]
  | trigger r =>
    rw [act_trigger] at h
    obtain ⟨l', hact, rfl⟩ := Rule.onPart_ok h
    rw [TriggerRule.eq_of_act_none hact]
  | avm r => exact absurd rfl hc

end Construction

end MeaningGraph
