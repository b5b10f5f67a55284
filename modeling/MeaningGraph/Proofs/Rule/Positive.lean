/-
# Positive matchers keep stale machines out

A stale handle has neither a name nor a control, so every leaf says no to it, and only two matchers make a yes of
that:

    negate m    says yes where m says no
    all []      says yes without asking

A matcher made without the two is positive (`Matcher.Positive`), and says no to a stale handle, at whatever depth
its leaves are.  So the machine opens no edge of an automaton with such matchers.  When it has been read no state is
left, and none comes back, as a state becomes active by an edge out of one that was:

    {s₀} --the--> {s₁} --stale--> {} --train--> {}

This goes for a transducer that reads live as well.  Its operators change the graph between the reads, but what is
stale stays so (`contains_perform`).  An operator may fail, and then the transducer does not move; this cannot happen
at the stale machine, which opens no edge and so has no operators carried out.
-/
import MeaningGraph.Proofs.Rule.Append
import MeaningGraph.Proofs.Rule.Hypercube
import MeaningGraph.Proofs.Rule.Trigger
import MeaningGraph.Proofs.Table
import MeaningGraph.Proofs.Transducer.Plain
import MeaningGraph.NounPhrase

namespace MeaningGraph

open Outcome (state)

variable {g g' : Graph} {id other current : MachineId} {ids seq register : List MachineId}

/-! ## Matchers -/

namespace Matcher

/-- The matcher is made without `negate`, and without an `all` of no matchers. -/
inductive Positive : Matcher → Prop where
  | printname (p : Pattern) : Positive (.printname p)
  | pos (p : Pattern) : Positive (.pos p)
  | concept : Positive .concept
  | kind (kinds : List ControlKind) : Positive (.kind kinds)
  | member (names : List String) : Positive (.member names)
  | all {ms : List Matcher} (hne : ms ≠ []) (hms : ∀ m ∈ ms, Positive m) : Positive (.all ms)
  | any {ms : List Matcher} (hms : ∀ m ∈ ms, Positive m) : Positive (.any ms)

/-- The induction is on how the matcher is made. -/
theorem Positive.refuses {m : Matcher} (h : m.Positive) (hid : g.contains id = false) :
    m.accepts g id = false := by
  have hname : g.name? id = none := by
    rw [Graph.name?, Graph.find?_eq_none_of_not_contains hid]
    rfl
  have hcontrol : g.control? id = none := by
    rw [Graph.control?, Graph.find?_eq_none_of_not_contains hid]
    rfl
  induction h with
  | printname p => rw [accepts, hname, Option.any_none]
  | pos p => rw [accepts, hcontrol, Option.bind_none, Option.any_none]
  | concept => rw [accepts, hcontrol, Option.any_none]
  | kind kinds => rw [accepts, hcontrol, Option.any_none]
  | member names => rw [accepts, hname, Option.any_none]
  | all hne hms ih =>
    obtain ⟨m, hm⟩ := List.exists_mem_of_ne_nil _ hne
    rw [accepts, acceptsAll_eq_all, List.all_eq_false]
    exact ⟨m, hm, Bool.eq_false_iff.1 (ih m hm)⟩
  | any hms ih =>
    rw [accepts, acceptsAny_eq_any, List.any_eq_false]
    intro m hm
    exact Bool.eq_false_iff.1 (ih m hm)

/-- Also where the name is too long. -/
theorem Positive.exact (name : String) : (Matcher.exact name).Positive := by
  by_cases h : Pattern.Fits name
  · rw [exact_of_fits h]
    exact .printname _
  · rw [exact_of_not_fits h]
    exact .any (List.forall_mem_nil _)

example : (negate concept).accepts Graph.empty ⟨0, 1⟩ = true ∧ (all []).accepts Graph.empty ⟨0, 1⟩ = true := by
  decide

end Matcher

/-! ## Acceptors -/

namespace Acceptor

variable {a : Acceptor}

/-- Every edge has a positive matcher. -/
def Positive (a : Acceptor) : Prop :=
  ∀ e ∈ a.edges, e.matcher.Positive

theorem opened_of_stale (ha : a.Positive) (hid : g.contains id = false) : a.opened g id = [] := by
  rw [opened, List.flatMap_eq_nil_iff]
  intro s hs
  rw [List.filterMap_eq_nil_iff]
  rintro ⟨e, i⟩ he
  have hedge : e ∈ a.edges := (mem_edgesFrom.1 (List.fst_mem_of_mem_zipIdx he)).1
  simp only [(ha e hedge).refuses hid, Bool.false_eq_true, if_false]

theorem opened_of_idle (h : a.active = []) : a.opened g id = [] := by
  rw [opened, h, List.flatMap_nil]

theorem active_step_of_opened (h : a.opened g id = []) : (a.step g id).active = [] := by
  rw [step, h]
  rfl

/-- The induction is on the sequence: the stale machine is the first, or it is met later by the same edges. -/
theorem scan_of_stale (ha : a.Positive) (hid : g.contains id = false) (hmem : id ∈ ids) :
    (a.scan g ids).1 = false := by
  induction ids generalizing a with
  | nil => cases hmem
  | cons other ids ih =>
    rw [scan]
    split
    · rfl
    · rename_i hactive
      rcases List.mem_cons.1 hmem with rfl | hmem
      · rw [active_step_of_opened (opened_of_stale ha hid)] at hactive
        exact absurd rfl hactive
      · exact ih (a := a.step g other) ha hmem

end Acceptor

/-! ## Transducers -/

namespace Transducer

variable {s : Transducer × Graph} {c : Call} {calls : List Call}

/-- The machine that a call reads. -/
def Call.machine? : Call → Option MachineId
  | .live id | .dry id => some id
  | .addState _ _ | .addEdge _ _ _ _ | .reset => none

/-- What is left behind by calls, each made whether or not the one before has succeeded. -/
def afterCalls (calls : List Call) (s : Transducer × Graph) : Transducer × Graph :=
  calls.foldl (fun s c => state (call c s)) s

theorem contains_apply {op : Operator} (h : op.apply register current g = .ok g') :
    g'.contains id = g.contains id := by
  cases op with
  | appendToEarlier position partition =>
    rw [Operator.apply] at h
    split at h
    · exact Graph.contains_append h
    · cases h
  | appendEarlier position partition =>
    rw [Operator.apply] at h
    split at h
    · exact Graph.contains_append h
    · cases h
  | setControl control => exact Graph.contains_setControl h

theorem contains_perform (ops : List Operator) :
    (state (perform register current ops g)).contains id = g.contains id := by
  induction ops generalizing g with
  | nil => rfl
  | cons op ops ih =>
    rw [perform]
    split
    · rename_i g' happly
      exact ih.trans (contains_apply happly)
    · rfl

/-- The transducer can run and has positive matchers, and the machine is stale. -/
structure Bars (id : MachineId) (s : Transducer × Graph) : Prop where
  runs : s.1.core.fault? = none
  positive : s.1.core.Positive
  stale : s.2.contains id = false

/-- Whether or not a read succeeds, it moves the transducer at most, and makes no machine live. -/
theorem Bars.read (h : Bars id s) (hc : c.machine? = some other) : Bars id (state (call c s)) := by
  obtain ⟨t, g⟩ := s
  obtain ⟨hruns, hpositive, hstale⟩ := h
  cases c with
  | addState | addEdge | reset => cases hc
  | live id' =>
    have hkeeps : (state (perform t.register id' ((t.core.opened g id').flatMap fun edge => t.operatorsOf edge.1)
        g)).contains id = g.contains id := contains_perform _
    rw [call, readLive, hruns]
    simp only
    split <;> rename_i hperform <;> rw [hperform] at hkeeps
    · exact ⟨hruns, hpositive, hkeeps.trans hstale⟩
    · exact ⟨hruns, hpositive, hkeeps.trans hstale⟩
  | dry id' =>
    simp only [call, readDry, Acceptor.read_eq, hruns]
    exact ⟨hruns, hpositive, hstale⟩

theorem active_of_opened (hruns : s.1.core.fault? = none) (hc : c.machine? = some other)
    (h : s.1.core.opened s.2 other = []) : (state (call c s)).1.core.active = [] := by
  obtain ⟨t, g⟩ := s
  cases c with
  | addState | addEdge | reset => cases hc
  | live id' =>
    cases hc
    rw [call, readLive, hruns, h]
    rfl
  | dry id' =>
    cases hc
    simp only [call, readDry, Acceptor.read_eq, hruns]
    exact Acceptor.active_step_of_opened h

/-- The induction is on the calls.  Once the stale machine has been read no state is active, and that is kept by
whatever is read after it. -/
theorem Bars.active_afterCalls (h : Bars id s) (hreads : ∀ c ∈ calls, ∃ other, c.machine? = some other)
    (hread : (∃ c ∈ calls, c.machine? = some id) ∨ s.1.core.active = []) :
    Bars id (afterCalls calls s) ∧ (afterCalls calls s).1.core.active = [] := by
  induction calls generalizing s with
  | nil =>
    rcases hread with ⟨c, hc, -⟩ | hidle
    · cases hc
    · exact ⟨h, hidle⟩
  | cons c calls ih =>
    obtain ⟨⟨other, hother⟩, hreads⟩ := List.forall_mem_cons.1 hreads
    refine ih (h.read hother) hreads ?_
    rcases hread with ⟨d, hd, hid⟩ | hidle
    · rcases List.mem_cons.1 hd with rfl | hd
      · exact .inr (active_of_opened h.runs hid (Acceptor.opened_of_stale h.positive h.stale))
      · exact .inl ⟨d, hd, hid⟩
    · exact .inr (active_of_opened h.runs hother (Acceptor.opened_of_idle hidle))

theorem Bars.inFinal_afterCalls (h : Bars id s) (hcalls : calls.map Call.machine? = seq.map some)
    (hmem : id ∈ seq) : (afterCalls calls s).1.core.inFinal = .ok false := by
  have hreads : ∀ c ∈ calls, ∃ other, c.machine? = some other := by
    intro c hc
    have hmachine : c.machine? ∈ seq.map some := by
      rw [← hcalls]
      exact List.mem_map_of_mem hc
    obtain ⟨other, -, hother⟩ := List.mem_map.1 hmachine
    exact ⟨other, hother.symm⟩
  have hread : ∃ c ∈ calls, c.machine? = some id := by
    rw [← List.mem_map, hcalls]
    exact List.mem_map_of_mem hmem
  obtain ⟨hafter, hidle⟩ := h.active_afterCalls hreads (.inl hread)
  rw [Acceptor.inFinal_eq, hafter.runs]
  simp only [Acceptor.atFinal, hidle, List.any_nil]

end Transducer

/-! ## Constructions -/

theorem AppendRule.positive_transducer {r : AppendRule} (hmodifier : r.modifier.Positive)
    (hhead : r.head.Positive) : r.transducer.core.Positive := by
  have hmatchers : r.matchers.1.Positive ∧ r.matchers.2.Positive := by
    unfold matchers
    cases r.direction with
    | modifierFirst => exact ⟨hmodifier, hhead⟩
    | headFirst => exact ⟨hhead, hmodifier⟩
  intro e he
  rw [transducer_eq] at he
  rcases List.mem_pair.1 he with rfl | rfl
  · exact hmatchers.1
  · exact hmatchers.2

/-- Every known deep case has a positive matcher. -/
def DeepCases.Positive (cases : DeepCases) : Prop :=
  ∀ m ∈ Table.values cases, m.Positive

theorem DeepCases.positive_default : DeepCases.default.Positive := by
  have hvalues : Table.values DeepCases.default =
      [["NOM"], ["ADE", "INE", "SUE"], ["ABL", "ELA", "DEL"], ["ACC"], ["ALL", "ILL", "SBL", "TER"]].map
        (.pos ∘ caseFeature) := rfl
  intro m hm
  rw [hvalues] at hm
  obtain ⟨cases, -, rfl⟩ := List.mem_map.1 hm
  exact .pos _

namespace VerbRule

variable {verb : String} {arguments : List Argument}

theorem positive_hypercube (h : ∀ a ∈ arguments, a.matcher.Positive) : (hypercube verb arguments).Positive := by
  intro e he
  rcases mem_edges_hypercube.1 he with rfl | ⟨mask, -, he⟩
  · exact .exact verb
  · obtain ⟨k, a, ha, -, rfl⟩ := mem_edgesAt.1 he
    exact h a (List.mem_of_getElem? ha)

theorem positive_arguments {l : Lexicon} {cases : DeepCases} {r : VerbRule}
    (hr : ofLexicon? l verb cases = .ok (some r)) (hcases : cases.Positive) :
    ∀ a ∈ r.arguments, a.matcher.Positive := by
  obtain ⟨-, definition, m, -, -, rfl⟩ := ofLexicon?_ok hr
  intro a ha
  obtain ⟨link, -, hlink⟩ := List.mem_filterMap.1 (List.mem_of_mem_take ha)
  obtain ⟨name, -, hlink⟩ := Option.bind_eq_some_iff.1 hlink
  obtain ⟨matcher, hmatcher, rfl⟩ := Option.map_eq_some_iff.1 hlink
  exact hcases matcher (Table.mem_values_of_find? hmatcher)

theorem check_of_stale {l : Lexicon} {cases : DeepCases} {r : VerbRule}
    (hr : ofLexicon? l verb cases = .ok (some r)) (hcases : cases.Positive) (hid : g.contains id = false)
    (checks : List (Graph × List MachineId)) (hmem : id ∈ seq) :
    ∃ r', Rule.check g seq (r.afterChecks checks) = .ok false r' := by
  obtain ⟨b, r', hcheck, hb⟩ := check_afterChecks hr checks g seq
  have hrefused : ((hypercube verb r.arguments).reset.scan g seq).1 = false :=
    Acceptor.scan_of_stale (positive_hypercube (positive_arguments hr hcases)) hid hmem
  have hnot : b ≠ true := by
    rw [Ne, hb, ← recognises_hypercube]
    intro hrecognises
    have haccepted : ((hypercube verb r.arguments).reset.scan g seq).1 = true := Acceptor.scan_iff.2 hrecognises
    rw [hrefused] at haccepted
    cases haccepted
  obtain rfl := Bool.eq_false_iff.2 hnot
  exact ⟨r', hcheck⟩

end VerbRule

theorem TriggerRule.positive_automaton (r : TriggerRule) : r.automaton.Positive := by
  intro e he
  obtain ⟨k, word, -, rfl⟩ := mem_chain_iff.1 he
  exact .exact word

/-- A matcher made of leaves, of `all` over one matcher or more and of `any`, says no to a stale handle.  An
automaton with such matchers does not accept a sequence with a stale handle in it, wherever the handle stands and
whatever else the sequence and the graph are.  This goes for a transducer whichever of the machines it reads live
and whichever dry, wherever it starts from and even if it goes on after an operator has failed; and it goes for
append rules and for verb rules whose matchers are such, whatever they were used for before, and for all trigger
rules. -/
theorem positive_fails_closed (g : Graph) (id : MachineId) (hid : g.contains id = false) :
    (∀ m : Matcher, m.Positive → m.accepts g id = false) ∧
    (∀ (a : Acceptor) (seq : List MachineId), a.Positive → a.fault? = none → id ∈ seq →
      a.answer g seq = .ok false) ∧
    (∀ (t : Transducer) (calls : List Transducer.Call) (seq : List MachineId), t.core.Positive →
      t.core.fault? = none → calls.map Transducer.Call.machine? = seq.map some → id ∈ seq →
      (Transducer.afterCalls calls (t, g)).1.core.inFinal = .ok false) ∧
    (∀ (r : AppendRule) (calls : List AppendRule.Call) (seq : List MachineId), r.modifier.Positive →
      r.head.Positive → id ∈ seq →
      Rule.check g seq r = .ok false r ∧ ∃ t, AppendRule.checkFrom g seq (r.afterCalls calls) = .ok false t) ∧
    (∀ (l : Lexicon) (verb : String) (cases : DeepCases) (r : VerbRule)
      (checks : List (Graph × List MachineId)) (seq : List MachineId),
      VerbRule.ofLexicon? l verb cases = .ok (some r) → cases.Positive → id ∈ seq →
      ∃ r', Rule.check g seq (r.afterChecks checks) = .ok false r') ∧
    ∀ (r : TriggerRule) (seq : List MachineId), id ∈ seq → Rule.check g seq r = .ok false r := by
  refine ⟨fun m hm => hm.refuses hid, ?_, ?_, ?_, ?_, ?_⟩
  · intro a seq ha hruns hmem
    have hrefused : (a.reset.scan g seq).1 = false := Acceptor.scan_of_stale ha hid hmem
    rw [Acceptor.answer_eq, hruns]
    exact congrArg Except.ok hrefused
  · intro t calls seq ht hruns hcalls hmem
    have hbars : Transducer.Bars id (t, g) := ⟨hruns, ht, hid⟩
    exact hbars.inFinal_afterCalls hcalls hmem
  · intro r calls seq hmodifier hhead hmem
    have hpositive : r.transducer.core.reset.Positive := AppendRule.positive_transducer hmodifier hhead
    have hrefused : r.check g seq = false := Acceptor.scan_of_stale hpositive hid hmem
    obtain ⟨t, hcheck, -⟩ := AppendRule.checkFrom_eq (r.reset_afterCalls calls) g seq
    rw [hrefused] at hcheck
    exact ⟨congrArg (EStateM.Result.ok · r) hrefused, t, hcheck⟩
  · intro l verb cases r checks seq hr hcases hmem
    exact VerbRule.check_of_stale hr hcases hid checks hmem
  · intro r seq hmem
    have hpositive : r.automaton.reset.Positive := r.positive_automaton
    have hrefused : r.check g seq = false := Acceptor.scan_of_stale hpositive hid hmem
    exact congrArg (EStateM.Result.ok · r) hrefused

/-- `the` is left of two machines, the second of which has been released. -/
def gone : Graph where
  slots := #[⟨1, some { name := "the" }⟩, ⟨2, none⟩]
  free := [1]
  live := 1

/-- A concept, or anything that is called `the` or `train`. -/
def theOrTrain : Matcher :=
  .any [.concept, .all [.any [.exact "the", .exact "train"], .printname (.text "t")]]

theorem positive_theOrTrain : theOrTrain.Positive := by
  refine .any fun m hm => ?_
  rcases List.mem_pair.1 hm with rfl | rfl
  · exact .concept
  · refine .all (List.cons_ne_nil _ _) fun m hm => ?_
    rcases List.mem_pair.1 hm with rfl | rfl
    · refine .any fun m hm => ?_
      rcases List.mem_pair.1 hm with rfl | rfl
      · exact .exact "the"
      · exact .exact "train"
    · exact .printname _

/-- Any number of them; each becomes a concept, and the first comes to hold it. -/
def several : Transducer where
  core := { stateCount := 1, init := [0], final := [0], edges := [⟨0, theOrTrain, 0⟩], active := [0] }
  operators := [((0, 0), [.setControl (some .concept), .appendToEarlier 0 0])]

/-- Without the stale machine both are accepted.  The first live read fails, as nothing has been read before. -/
theorem positive_fails_closed_gone :
    gone.contains ⟨1, 1⟩ = false ∧
    theOrTrain.accepts gone ⟨1, 1⟩ = false ∧ theOrTrain.accepts gone ⟨0, 1⟩ = true ∧
    several.core.answer gone [⟨0, 1⟩, ⟨0, 1⟩] = .ok true ∧
    several.core.answer gone [⟨0, 1⟩, ⟨1, 1⟩, ⟨0, 1⟩] = .ok false ∧
    (Transducer.afterCalls [.live ⟨0, 1⟩, .dry ⟨0, 1⟩, .live ⟨0, 1⟩] (several, gone)).1.core.inFinal = .ok true ∧
    (Transducer.afterCalls [.live ⟨0, 1⟩, .dry ⟨0, 1⟩, .live ⟨1, 1⟩, .live ⟨0, 1⟩] (several, gone)).1.core.inFinal =
      .ok false ∧
    Rule.check gone [⟨0, 1⟩, ⟨1, 1⟩] NounPhrase.detNoun = .ok false NounPhrase.detNoun ∧
    (∃ r, Rule.check gone [⟨1, 1⟩, ⟨0, 1⟩] (VerbRule.going.afterChecks []) = .ok false r) ∧
    Rule.check gone [⟨1, 1⟩, ⟨0, 1⟩] TriggerRule.ticket = .ok false TriggerRule.ticket := by
  have hgone : gone.contains ⟨1, 1⟩ = false := by decide +kernel
  have hpositive : several.core.Positive := by
    intro e he
    obtain rfl := List.mem_singleton.1 he
    exact positive_theOrTrain
  obtain ⟨hmatcher, hacceptor, htransducer, happend, hverb, htrigger⟩ := positive_fails_closed gone ⟨1, 1⟩ hgone
  refine ⟨hgone, hmatcher _ positive_theOrTrain, by decide +kernel, by decide +kernel, ?_, by decide +kernel, ?_, ?_,
    ?_, ?_⟩
  · exact hacceptor several.core _ hpositive rfl (by decide)
  · exact htransducer several _ [⟨0, 1⟩, ⟨0, 1⟩, ⟨1, 1⟩, ⟨0, 1⟩] hpositive rfl rfl (by decide)
  · exact (happend NounPhrase.detNoun [] _ (.pos _) (.pos _) (by decide)).1
  · exact hverb VerbRule.journey "go" .default VerbRule.going [] _ rfl DeepCases.positive_default (by decide)
  · exact htrigger TriggerRule.ticket _ (by decide)

end MeaningGraph
