/-
# What the calls on an automaton make it accept

A history is a list of calls on an automaton, which adds states and edges, marks states, and also runs it for a
while, all in any order.  What the history has built can be read off its calls:

    a state is initial     it was added as such, or marked so; the mark may come before the state, or without it
    a state is final       likewise
    an edge                it was added

Running only moves the active states, and `accepts` forgets those first.  So the answer is a matter of what was
built: whether there are states to start and to end with, and then whether a row of states leads from an initial
one to a final one, with an edge for each machine (`answer_replay`).

    s₀ --id₀--> s₁ --id₁--> …  --idₖ₋₁--> sₖ

Reading stops where no state is left.  Reading on from there would find none either, and so give the same answer.
-/
import Mathlib.Data.List.Induction
import MeaningGraph.Proofs.Acceptor

namespace MeaningGraph.Acceptor

/-! ## Histories -/

/-- A call on an automaton. -/
inductive Call where
  | addState (isInit isFinal : Bool)
  | markInit (s : Nat)
  | markFinal (s : Nat)
  | addEdge (source : Nat) (matcher : Matcher) (target : Nat)
  | reset
  | read (g : Graph) (id : MachineId)
  | accepts (g : Graph) (ids : List MachineId)

/-- The call runs the automaton, and builds nothing. -/
def Call.runs : Call → Bool
  | .reset | .read _ _ | .accepts _ _ => true
  | .addState _ _ | .markInit _ | .markFinal _ | .addEdge _ _ _ => false

/-- The automaton after a call, whether or not the call succeeds. -/
def call (a : Acceptor) : Call → Acceptor
  | .addState isInit isFinal => (a.addState isInit isFinal).2
  | .markInit s => a.markInit s
  | .markFinal s => a.markFinal s
  | .addEdge source matcher target => a.addEdge source matcher target
  | .reset => a.reset
  | .read g id =>
    match a.read g id with
    | .ok a' => a'
    | .error _ => a
  | .accepts g ids =>
    match accepts g ids a with
    | .ok _ a' => a'
    | .error _ a' => a'

/-- The automaton that a history builds from none. -/
def replay (history : List Call) : Acceptor :=
  history.foldl call empty

/-- The answer of `accepts`. -/
def answer (a : Acceptor) (g : Graph) (ids : List MachineId) : Except Error Bool :=
  match accepts g ids a with
  | .ok b _ => .ok b
  | .error e _ => .error e

/-! ## What a history builds -/

/-- The number of states that are added. -/
def statesIn : List Call → Nat
  | [] => 0
  | .addState _ _ :: history => statesIn history + 1
  | _ :: history => statesIn history

/-- Some call of the history does this, where `n` is the number of states added before it. -/
def Sometime (does : (n : Nat) → Call → Prop) (history : List Call) : Prop :=
  ∃ before c after, history = before ++ c :: after ∧ does (statesIn before) c

/-- The call makes the state initial, the next new state being `n`. -/
def MakesInitial (s n : Nat) (c : Call) : Prop :=
  (∃ isFinal, c = .addState true isFinal ∧ s = n) ∨ c = .markInit s

/-- The call makes the state final, the next new state being `n`. -/
def MakesFinal (s n : Nat) (c : Call) : Prop :=
  (∃ isInit, c = .addState isInit true ∧ s = n) ∨ c = .markFinal s

def IsInitial (history : List Call) (s : Nat) : Prop :=
  Sometime (MakesInitial s) history

def IsFinal (history : List Call) (s : Nat) : Prop :=
  Sometime (MakesFinal s) history

/-- There are states, the first one initial and the last one final, and between any two that follow each other
an edge was added that the machine at that place opens. -/
def HasRun (history : List Call) (g : Graph) (ids : List MachineId) : Prop :=
  ∃ state : Nat → Nat, IsInitial history (state 0) ∧ IsFinal history (state ids.length) ∧
    ∀ j (hj : j < ids.length), ∃ matcher,
      .addEdge (state j) matcher (state (j + 1)) ∈ history ∧ matcher.accepts g ids[j] = true

variable {a : Acceptor} {g : Graph} {id : MachineId} {ids : List MachineId} {s t : Nat} {history : List Call}
  {c : Call} {does : Nat → Call → Prop}

theorem statesIn_append (before after : List Call) :
    statesIn (before ++ after) = statesIn before + statesIn after := by
  induction before with
  | nil => simp [statesIn]
  | cons c before ih =>
    cases c with
    | addState => simp only [List.cons_append, statesIn, ih]; omega
    | _ => simp only [List.cons_append, statesIn, ih]

theorem replay_concat (history : List Call) (c : Call) : replay (history ++ [c]) = (replay history).call c :=
  List.foldl_append

theorem sometime_concat : Sometime does (history ++ [c]) ↔ Sometime does history ∨ does (statesIn history) c := by
  constructor
  · rintro ⟨before, d, after, hsplit, hdoes⟩
    rcases List.eq_nil_or_concat after with rfl | ⟨after, e, rfl⟩
    · obtain ⟨rfl, hcd⟩ := List.append_inj' hsplit rfl
      obtain ⟨rfl, -⟩ := List.cons.inj hcd
      exact .inr hdoes
    · have hlast : history ++ [c] = (before ++ d :: after) ++ [e] := by simpa using hsplit
      obtain ⟨rfl, -⟩ := List.append_inj' hlast rfl
      exact .inl ⟨before, d, after, rfl, hdoes⟩
  · rintro (⟨before, d, after, rfl, hdoes⟩ | hdoes)
    · exact ⟨before, d, after ++ [c], by simp, hdoes⟩
    · exact ⟨history, c, [], rfl, hdoes⟩

/-! ## Running -/

theorem inFinal_eq (a : Acceptor) :
    a.inFinal =
      match a.fault? with
      | some fault => .error (.automaton fault)
      | none => .ok a.atFinal := by
  rw [inFinal, validate]
  cases a.fault? <;> rfl

theorem accepts_eq (a : Acceptor) (g : Graph) (ids : List MachineId) :
    accepts g ids a =
      match a.fault? with
      | some fault => .error (.automaton fault) a.reset
      | none => .ok (a.reset.scan g ids).1 (a.reset.scan g ids).2 :=
  rfl

/-- The two automata are built alike, wherever they stand. -/
structure SameBuild (a a' : Acceptor) : Prop where
  stateCount : a'.stateCount = a.stateCount
  init : a'.init = a.init
  final : a'.final = a.final
  edges : a'.edges = a.edges

theorem sameBuild_of_moveTo {a' : Acceptor} (h : a'.moveTo [] = a.moveTo []) : SameBuild a a' := by
  rw [moveTo, moveTo, mk.injEq] at h
  obtain ⟨hcount, hinit, hfinal, hedges, -⟩ := h
  exact ⟨hcount, hinit, hfinal, hedges⟩

/-- Running an automaton moves it and leaves the rest of it alone. -/
theorem sameBuild_call (hc : c.runs = true) : SameBuild a (a.call c) := by
  refine sameBuild_of_moveTo ?_
  cases c with
  | reset => rfl
  | read g id =>
    rw [call, read_eq]
    cases a.fault? <;> rfl
  | accepts g ids =>
    rw [call, accepts_eq]
    cases a.fault? with
    | some fault => rfl
    | none => exact moveTo_scan [] g ids a.reset
  | addState | markInit | markFinal | addEdge => cases hc

/-- Without the stop at the end of the ways the same comes out: where no state is active, none becomes so. -/
theorem scan_eq_atFinal (a : Acceptor) (g : Graph) (ids : List MachineId) :
    (a.scan g ids).1 = (ids.foldl (fun a id => a.step g id) a).atFinal := by
  have hidle : ∀ (ids : List MachineId) (a : Acceptor), a.active = [] →
      (ids.foldl (fun a id => a.step g id) a).atFinal = false := by
    intro ids
    induction ids with
    | nil =>
      intro a hnone
      rw [List.foldl_nil, atFinal, hnone]
      rfl
    | cons id ids ih =>
      intro a hnone
      refine ih (a.step g id) (List.eq_nil_iff_forall_not_mem.2 fun s hs => ?_)
      obtain ⟨e, -, hsource, -⟩ := mem_active_step.1 hs
      rw [hnone] at hsource
      exact List.not_mem_nil hsource
  induction ids generalizing a with
  | nil => rfl
  | cons id ids ih =>
    rw [scan, List.foldl_cons]
    split
    next hnone => exact (hidle ids _ (List.isEmpty_iff.1 hnone)).symm
    next => exact ih (a.step g id)

theorem answer_eq_foldlM (a : Acceptor) (g : Graph) (ids : List MachineId) :
    a.answer g ids = (do let a ← ids.foldlM (fun (a : Acceptor) id => a.read g id) a.reset; a.inFinal) := by
  have hreads : ∀ (ids : List MachineId) (a : Acceptor),
      (do let a ← ids.foldlM (fun (a : Acceptor) id => a.read g id) a; a.inFinal) =
        match a.fault? with
        | some fault => .error (.automaton fault)
        | none => .ok (ids.foldl (fun a id => a.step g id) a).atFinal := by
    intro ids
    induction ids with
    | nil => exact inFinal_eq
    | cons id ids ih =>
      intro a
      rw [List.foldlM_cons, read_eq, List.foldl_cons]
      have hsame : (a.step g id).fault? = a.fault? := rfl
      cases hfault : a.fault? with
      | some fault => rfl
      | none =>
        refine (ih (a.step g id)).trans ?_
        rw [hsame, hfault]
  rw [hreads, answer, accepts_eq, ← scan_eq_atFinal]
  have hsame : a.reset.fault? = a.fault? := rfl
  rw [hsame]
  cases a.fault? <;> rfl

/-- The machines lead from one state to another if there is a row of states between the two, with an edge for each
machine. -/
theorem leads_iff_states {edges : List Edge} :
    Leads edges g ids s t ↔ ∃ state : Nat → Nat, state 0 = s ∧ state ids.length = t ∧
      ∀ j (hj : j < ids.length), ∃ matcher,
        ⟨state j, matcher, state (j + 1)⟩ ∈ edges ∧ matcher.accepts g ids[j] = true := by
  induction ids generalizing s with
  | nil =>
    constructor
    · rintro rfl
      exact ⟨fun _ => s, rfl, rfl, fun j hj => absurd hj (Nat.not_lt_zero j)⟩
    · rintro ⟨state, rfl, rfl, -⟩
      rfl
  | cons id ids ih =>
    constructor
    · rintro ⟨⟨source, matcher, target⟩, he, rfl, hid, hrest⟩
      obtain ⟨state, hfirst, hlast, hstates⟩ := ih.1 hrest
      refine ⟨fun j => Nat.casesOn j source state, rfl, hlast, fun j hj => ?_⟩
      cases j with
      | zero =>
        refine ⟨matcher, ?_, hid⟩
        show ⟨source, matcher, state 0⟩ ∈ edges
        rwa [hfirst]
      | succ j => exact hstates j (Nat.lt_of_succ_lt_succ hj)
    · rintro ⟨state, rfl, hlast, hstates⟩
      obtain ⟨matcher, he, hid⟩ := hstates 0 (Nat.succ_pos _)
      refine ⟨_, he, rfl, hid, ih.2 ⟨fun j => state (j + 1), rfl, hlast, fun j hj => ?_⟩⟩
      exact hstates (j + 1) (Nat.succ_lt_succ hj)

/-! ## Building -/

theorem stateCount_call (a : Acceptor) (c : Call) : (a.call c).stateCount = a.stateCount + statesIn [c] := by
  cases c with
  | addState isInit isFinal => cases isInit <;> cases isFinal <;> rfl
  | markInit | markFinal | addEdge => rfl
  | reset | read | accepts => exact (sameBuild_call rfl).stateCount

theorem mem_init_call (s : Nat) (a : Acceptor) (c : Call) :
    s ∈ (a.call c).init ↔ s ∈ a.init ∨ MakesInitial s a.stateCount c := by
  cases c with
  | addState isInit isFinal =>
    cases isInit <;> cases isFinal <;> simp [call, addState, markInit, markFinal, addTo, MakesInitial, or_comm]
  | markInit t => simp [call, markInit, addTo, MakesInitial, or_comm, eq_comm]
  | markFinal | addEdge => simp [call, markFinal, addEdge, MakesInitial]
  | reset | read | accepts =>
    rw [(sameBuild_call ?_).init]
    · simp [MakesInitial]
    · rfl

theorem mem_final_call (s : Nat) (a : Acceptor) (c : Call) :
    s ∈ (a.call c).final ↔ s ∈ a.final ∨ MakesFinal s a.stateCount c := by
  cases c with
  | addState isInit isFinal =>
    cases isInit <;> cases isFinal <;> simp [call, addState, markInit, markFinal, addTo, MakesFinal, or_comm]
  | markFinal t => simp [call, markFinal, addTo, MakesFinal, or_comm, eq_comm]
  | markInit | addEdge => simp [call, markInit, addEdge, MakesFinal]
  | reset | read | accepts =>
    rw [(sameBuild_call ?_).final]
    · simp [MakesFinal]
    · rfl

theorem mem_edges_call (e : Edge) (a : Acceptor) (c : Call) :
    e ∈ (a.call c).edges ↔ e ∈ a.edges ∨ c = .addEdge e.source e.matcher e.target := by
  cases c with
  | addState isInit isFinal => cases isInit <;> cases isFinal <;> simp [call, addState, markInit, markFinal]
  | addEdge source matcher target =>
    obtain ⟨s, m, t⟩ := e
    simp [call, addEdge, eq_comm]
  | markInit | markFinal => simp [call, markInit, markFinal]
  | reset | read | accepts =>
    rw [(sameBuild_call ?_).edges]
    · simp
    · rfl

theorem stateCount_replay (history : List Call) : (replay history).stateCount = statesIn history := by
  induction history using List.reverseRecOn with
  | nil => rfl
  | append_singleton history c ih => rw [replay_concat, stateCount_call, ih, statesIn_append]

/-- What holds of an automaton after a history is what one of its calls has brought about, if each call brings it
about by itself or leaves it as it was. -/
theorem holds_replay_iff (holds : Acceptor → Prop) (hempty : ¬holds empty)
    (hcall : ∀ a c, holds (a.call c) ↔ holds a ∨ does a.stateCount c) (history : List Call) :
    holds (replay history) ↔ Sometime does history := by
  induction history using List.reverseRecOn with
  | nil =>
    refine iff_of_false hempty ?_
    rintro ⟨before, c, after, hsplit, -⟩
    simp at hsplit
  | append_singleton history c ih => rw [replay_concat, hcall, ih, stateCount_replay, sometime_concat]

theorem mem_init_replay : s ∈ (replay history).init ↔ IsInitial history s :=
  holds_replay_iff (fun a => s ∈ a.init) List.not_mem_nil (mem_init_call s) history

theorem mem_final_replay : s ∈ (replay history).final ↔ IsFinal history s :=
  holds_replay_iff (fun a => s ∈ a.final) List.not_mem_nil (mem_final_call s) history

theorem mem_edges_replay {e : Edge} :
    e ∈ (replay history).edges ↔ .addEdge e.source e.matcher e.target ∈ history := by
  have hsome : e ∈ (replay history).edges ↔
      Sometime (fun _ c => c = .addEdge e.source e.matcher e.target) history :=
    holds_replay_iff (fun a => e ∈ a.edges) List.not_mem_nil (mem_edges_call e) history
  rw [hsome]
  constructor
  · rintro ⟨before, c, after, rfl, rfl⟩
    exact List.mem_append_right _ List.mem_cons_self
  · intro hmem
    obtain ⟨before, after, rfl⟩ := List.append_of_mem hmem
    exact ⟨before, _, after, rfl, rfl⟩

/-! ## The answer -/

theorem answer_eq (a : Acceptor) (g : Graph) (ids : List MachineId) :
    a.answer g ids =
      match a.fault? with
      | some fault => .error (.automaton fault)
      | none => .ok (a.reset.scan g ids).1 := by
  rw [answer, accepts_eq]
  cases a.fault? <;> rfl

/-- What a history may have left out, the gravest first, and the fault that is reported for it. -/
theorem fault?_replay_cases (history : List Call) :
    statesIn history = 0 ∧ (replay history).fault? = some .noStates ∨
    statesIn history ≠ 0 ∧ (∀ s, ¬IsInitial history s) ∧ (replay history).fault? = some .noInitialState ∨
    statesIn history ≠ 0 ∧ (∃ s, IsInitial history s) ∧ (∀ s, ¬IsFinal history s) ∧
      (replay history).fault? = some .noFinalState ∨
    statesIn history ≠ 0 ∧ (∃ s, IsInitial history s) ∧ (∃ s, IsFinal history s) ∧
      (replay history).fault? = none := by
  have hinit : (replay history).init = [] ↔ ∀ s, ¬IsInitial history s := by
    simp only [List.eq_nil_iff_forall_not_mem, mem_init_replay]
  have hfinal : (replay history).final = [] ↔ ∀ s, ¬IsFinal history s := by
    simp only [List.eq_nil_iff_forall_not_mem, mem_final_replay]
  by_cases hcount : statesIn history = 0
  · exact .inl ⟨hcount, by rw [fault?, stateCount_replay, if_pos hcount]⟩
  by_cases hnone : (replay history).init = []
  · exact .inr (.inl ⟨hcount, hinit.1 hnone, by simp [fault?, stateCount_replay, hcount, hnone]⟩)
  have hstart : ∃ s, IsInitial history s := not_forall_not.1 (mt hinit.2 hnone)
  by_cases hend : (replay history).final = []
  · exact .inr (.inr (.inl ⟨hcount, hstart, hfinal.1 hend,
      by simp [fault?, stateCount_replay, hcount, hnone, hend]⟩))
  · exact .inr (.inr (.inr ⟨hcount, hstart, not_forall_not.1 (mt hfinal.2 hend),
      by simp [fault?, stateCount_replay, hcount, hnone, hend]⟩))

theorem scan_replay_iff :
    ((replay history).reset.scan g ids).1 = true ↔ HasRun history g ids := by
  rw [scan_iff]
  constructor
  · rintro ⟨s, hs, t, ht, hleads⟩
    obtain ⟨state, rfl, rfl, hstates⟩ := leads_iff_states.1 hleads
    refine ⟨state, mem_init_replay.1 hs, mem_final_replay.1 ht, fun j hj => ?_⟩
    obtain ⟨matcher, he, hid⟩ := hstates j hj
    exact ⟨matcher, mem_edges_replay.1 he, hid⟩
  · rintro ⟨state, hs, ht, hstates⟩
    refine ⟨_, mem_init_replay.2 hs, _, mem_final_replay.2 ht, leads_iff_states.2 ⟨state, rfl, rfl, fun j hj => ?_⟩⟩
    obtain ⟨matcher, he, hid⟩ := hstates j hj
    exact ⟨matcher, mem_edges_replay.2 he, hid⟩

/-- An automaton that was built in any order, and run in between, answers with a fault exactly when it has no states,
or else no initial one, or else no final one; otherwise it answers whether a row of states leads from an initial one
to a final one, with an edge for each machine.  Reading on where no state is left gives the same answer. -/
theorem answer_replay (history : List Call) (g : Graph) (ids : List MachineId) :
    ((replay history).answer g ids = .error (.automaton .noStates) ↔ statesIn history = 0) ∧
    ((replay history).answer g ids = .error (.automaton .noInitialState) ↔
      statesIn history ≠ 0 ∧ ∀ s, ¬IsInitial history s) ∧
    ((replay history).answer g ids = .error (.automaton .noFinalState) ↔
      statesIn history ≠ 0 ∧ (∃ s, IsInitial history s) ∧ ∀ s, ¬IsFinal history s) ∧
    (∀ b, (replay history).answer g ids = .ok b ↔
      statesIn history ≠ 0 ∧ (∃ s, IsInitial history s) ∧ (∃ s, IsFinal history s) ∧
        (b = true ↔ HasRun history g ids)) ∧
    (replay history).answer g ids =
      (do let a ← ids.foldlM (fun (a : Acceptor) id => a.read g id) (replay history).reset; a.inFinal) := by
  rw [← answer_eq_foldlM, answer_eq]
  obtain ⟨hcount, hfault⟩ | ⟨hcount, hnone, hfault⟩ | ⟨hcount, hstart, hnone, hfault⟩ |
      ⟨hcount, hstart, hend, hfault⟩ := fault?_replay_cases history
  · simp [hfault, hcount]
  · simp [hfault, hcount, hnone]
  · simp [hfault, hcount, hstart, hnone]
  · have hiff : ∀ b, ((replay history).reset.scan g ids).1 = b ↔ (b = true ↔ HasRun history g ids) := by
      intro b
      rw [← scan_replay_iff, ← Bool.eq_iff_iff, eq_comm]
    simp [hfault, hcount, hstart, hend, hiff]

end MeaningGraph.Acceptor
