/-
# Operators beside the edges, and on them

A transducer keeps the edges in its acceptor and the operators in a table beside it, which names an edge by its
source and its number among the edges of that source.  A plain transducer has one list of transitions, each with
its operators, and sets of states:

    acceptor         edges        (s₀, ART, s₁), (s₁, NOUN, s₂), (s₁, ADJ, s₁)
    table            operators    (s₁, 0) ↦ [append the 0th]
    plain            transitions  (s₀, ART, s₁, []), (s₁, NOUN, s₂, [append the 0th]), (s₁, ADJ, s₁, [])

The two go in step (`Agrees`).  What has to be kept is that the table finds for a state and a number the operators
of the transition that is so numbered in the list, and finds nothing where the state has no such transition yet:
the next transition of the state gets that number, and the table answers with the first entry of a name.

What a plain transducer does in a step is said apart, without an order of evaluation: which transitions it takes
(`filter_taken`), in what order (`pairwise_taken`), and how far it gets with their operators (`CarriesOut`).
-/
import Mathlib.Data.Finset.Sort
import MeaningGraph.Proofs.Transducer
import MeaningGraph.Proofs.Graph.Fold

namespace MeaningGraph

/-- An edge with its operators. -/
structure Transition where
  source : Nat
  matcher : Matcher
  target : Nat
  operators : List Operator

/-- A transducer with the operators on its edges.  Transitions stand in the order they were added. -/
structure PlainTransducer where
  stateCount : Nat := 0
  init : Finset Nat := ∅
  final : Finset Nat := ∅
  transitions : List Transition := []
  active : Finset Nat := ∅
  register : List MachineId := []

/-- A call on a transducer; a machine is read live or dry. -/
inductive Transducer.Call where
  | addState (isInit isFinal : Bool)
  | addEdge (source : Nat) (matcher : Matcher) (target : Nat) (ops : List Operator)
  | reset
  | live (id : MachineId)
  | dry (id : MachineId)

/-- What is seen after a call. -/
structure Sight where
  error? : Option Error
  graph : Graph
  active : List Nat
  register : List MachineId
deriving DecidableEq

/-- What is seen after each call of a history, which goes on after a failure with what is left behind. -/
def sightsOf {M : Type} (call : Transducer.Call → EStateM Error (M × Graph) Unit) (active : M → List Nat)
    (register : M → List MachineId) : List Transducer.Call → M × Graph → List Sight
  | [], _ => []
  | c :: history, s =>
    match call c s with
    | .ok () s => ⟨none, s.2, active s.1, register s.1⟩ :: sightsOf call active register history s
    | .error e s => ⟨some e, s.2, active s.1, register s.1⟩ :: sightsOf call active register history s

/-! ## The plain transducer -/

namespace Transition

def edge (e : Transition) : Edge :=
  ⟨e.source, e.matcher, e.target⟩

end Transition

namespace PlainTransducer

variable {p : PlainTransducer} {g : Graph} {id : MachineId} {s : Nat}

def empty : PlainTransducer := {}

/-- Adds a state; its number is the number of states before. -/
def addState (isInit isFinal : Bool) (p : PlainTransducer) : PlainTransducer :=
  { p with
    stateCount := p.stateCount + 1
    init := if isInit then insert p.stateCount p.init else p.init
    final := if isFinal then insert p.stateCount p.final else p.final }

def add (e : Transition) (p : PlainTransducer) : PlainTransducer :=
  { p with transitions := p.transitions ++ [e] }

def reset (p : PlainTransducer) : PlainTransducer :=
  { p with active := p.init, register := [] }

/-- What keeps the transducer from running, the gravest fault first. -/
def fault? (p : PlainTransducer) : Option AutomatonFault :=
  if p.stateCount = 0 then some .noStates
  else if p.init = ∅ then some .noInitialState
  else if p.final = ∅ then some .noFinalState
  else none

def outOf (p : PlainTransducer) (s : Nat) : List Transition :=
  p.transitions.filter (·.source = s)

/-- The transitions that a machine takes: the active states in order, the transitions of each in the order they
were added. -/
def taken (p : PlainTransducer) (g : Graph) (id : MachineId) : List Transition :=
  (p.active.sort (· ≤ ·)).flatMap fun s => (p.outOf s).filter (·.matcher.accepts g id)

def moveAlong (taken : List Transition) (id : MachineId) (p : PlainTransducer) : PlainTransducer :=
  { p with active := (taken.map (·.target)).toFinset, register := p.register ++ [id] }

def carry (register : List MachineId) (current : MachineId) (op : Operator) : EStateM Error Graph Unit := fun g =>
  match op.apply register current g with
  | .ok g => .ok () g
  | .error e => .error e g

/-- Carries out the operators of each transition, one after the other. -/
def carryOut (register : List MachineId) (current : MachineId) (taken : List Transition) :
    EStateM Error Graph Unit :=
  taken.forM fun e => e.operators.forM (carry register current)

/-- Takes what the machine takes in the graph as it is before, carries out the operators, and moves. -/
def readLive (id : MachineId) : EStateM Error (PlainTransducer × Graph) Unit := fun (p, g) =>
  match p.fault? with
  | some fault => .error (.automaton fault) (p, g)
  | none =>
    match carryOut p.register id (p.taken g id) g with
    | .ok () g' => .ok () (p.moveAlong (p.taken g id) id, g')
    | .error e g' => .error e (p, g')

/-- Takes what the machine takes, and moves. -/
def readDry (id : MachineId) : EStateM Error (PlainTransducer × Graph) Unit := fun (p, g) =>
  match p.fault? with
  | some fault => .error (.automaton fault) (p, g)
  | none => .ok () (p.moveAlong (p.taken g id) id, g)

def call : Transducer.Call → EStateM Error (PlainTransducer × Graph) Unit
  | .addState isInit isFinal => fun (p, g) => .ok () (p.addState isInit isFinal, g)
  | .addEdge source matcher target ops => fun (p, g) => .ok () (p.add ⟨source, matcher, target, ops⟩, g)
  | .reset => fun (p, g) => .ok () (p.reset, g)
  | .live id => readLive id
  | .dry id => readDry id

def sights (history : List Transducer.Call) (g : Graph) : List Sight :=
  sightsOf call (·.active.sort (· ≤ ·)) (·.register) history (empty, g)

/-! ## What a plain transducer does in a step -/

theorem pairwise_taken : (p.taken g id).Pairwise (·.source ≤ ·.source) := by
  refine List.pairwise_flatMap.2 ⟨?_, ?_⟩
  · intro s hs
    refine List.pairwise_of_forall_mem_list fun e he e' he' => ?_
    simp only [outOf, List.mem_filter, decide_eq_true_eq] at he he'
    exact (he.1.2.trans he'.1.2.symm).le
  · refine (p.active.pairwise_sort (· ≤ ·)).imp ?_
    intro s s' hle e he e' he'
    simp only [outOf, List.mem_filter, decide_eq_true_eq] at he he'
    omega

theorem flatMap_only {α : Type} {states : List Nat} (hnodup : states.Nodup) {f : Nat → List α}
    (h : ∀ s', s' ≠ s → f s' = []) : states.flatMap f = if s ∈ states then f s else [] := by
  induction states with
  | nil => rfl
  | cons s' states ih =>
    obtain ⟨hnew, hnodup⟩ := List.nodup_cons.1 hnodup
    rw [List.flatMap_cons, ih hnodup]
    by_cases hs : s' = s
    · subst hs
      rw [if_neg hnew, if_pos List.mem_cons_self, List.append_nil]
    · rw [h s' hs, List.nil_append]
      simp only [List.mem_cons, Ne.symm hs, false_or]

/-- Of the transitions of a state those are taken, each as often as it was added and in that order, whose state
is active and whose matcher accepts the machine. -/
theorem filter_taken (s : Nat) :
    (p.taken g id).filter (·.source = s) =
      p.transitions.filter fun e => e.source = s ∧ s ∈ p.active ∧ e.matcher.accepts g id = true := by
  have hothers : ∀ s', s' ≠ s → ((p.outOf s').filter (·.matcher.accepts g id)).filter (·.source = s) = [] := by
    intro s' hne
    simp only [outOf, List.filter_eq_nil_iff, List.mem_filter, decide_eq_true_eq]
    rintro e ⟨⟨-, rfl⟩, -⟩
    exact hne
  rw [taken, List.filter_flatMap, flatMap_only (p.active.sort_nodup _) hothers, outOf, List.filter_filter,
    List.filter_filter]
  simp only [Finset.mem_sort]
  split
  · rename_i hs
    refine List.filter_congr fun e _ => ?_
    rw [Bool.eq_iff_iff]
    simp [hs, and_comm]
  · rename_i hs
    symm
    simp [hs]

/-- Operators are carried out one after the other from a graph, up to the first that fails; the error and the
graph then are those of the end. -/
inductive CarriesOut (register : List MachineId) (current : MachineId) :
    List Operator → Graph → Option Error → Graph → Prop where
  | done (g : Graph) : CarriesOut register current [] g none g
  | fails {op : Operator} {ops : List Operator} {g : Graph} {e : Error}
      (h : op.apply register current g = .error e) : CarriesOut register current (op :: ops) g (some e) g
  | step {op : Operator} {ops : List Operator} {g g' g'' : Graph} {error? : Option Error}
      (h : op.apply register current g = .ok g') (hrest : CarriesOut register current ops g' error? g'') :
      CarriesOut register current (op :: ops) g error? g''

theorem forM_carry (register : List MachineId) (current : MachineId) (ops : List Operator) (g : Graph) :
    ops.forM (carry register current) g = Transducer.perform register current ops g := by
  induction ops generalizing g with
  | nil => rfl
  | cons op ops ih =>
    change EStateM.bind (carry register current op) (fun _ => ops.forM (carry register current)) g = _
    rw [Transducer.perform]
    unfold EStateM.bind carry
    cases op.apply register current g with
    | ok g => exact ih g
    | error e => rfl

theorem perform_append (register : List MachineId) (current : MachineId) (ops ops' : List Operator) (g : Graph) :
    Transducer.perform register current (ops ++ ops') g =
      EStateM.bind (Transducer.perform register current ops)
        (fun _ => Transducer.perform register current ops') g := by
  unfold EStateM.bind
  induction ops generalizing g with
  | nil => rfl
  | cons op ops ih =>
    rw [List.cons_append, Transducer.perform, Transducer.perform]
    cases op.apply register current g with
    | ok g => exact ih g
    | error e => rfl

theorem carryOut_eq_perform (register : List MachineId) (current : MachineId) (taken : List Transition)
    (g : Graph) :
    carryOut register current taken g =
      Transducer.perform register current (taken.flatMap (·.operators)) g := by
  induction taken generalizing g with
  | nil => rfl
  | cons e taken ih =>
    rw [List.flatMap_cons, perform_append]
    change EStateM.bind (e.operators.forM (carry register current)) (fun _ => carryOut register current taken) g = _
    unfold EStateM.bind
    rw [forM_carry]
    cases Transducer.perform register current e.operators g with
    | ok _ g => exact ih g
    | error _ _ => rfl

theorem carriesOut_perform (register : List MachineId) (current : MachineId) (ops : List Operator) (g : Graph) :
    (∃ g', CarriesOut register current ops g none g' ∧
      Transducer.perform register current ops g = .ok () g') ∨
    ∃ e g', CarriesOut register current ops g (some e) g' ∧
      Transducer.perform register current ops g = .error e g' := by
  induction ops generalizing g with
  | nil => exact .inl ⟨g, .done g, rfl⟩
  | cons op ops ih =>
    rw [Transducer.perform]
    cases happly : op.apply register current g with
    | error e => exact .inr ⟨e, g, .fails happly, rfl⟩
    | ok g₁ =>
      rcases ih g₁ with ⟨g', hcarries, hperform⟩ | ⟨e, g', hcarries, hperform⟩
      · exact .inl ⟨g', .step happly hcarries, hperform⟩
      · exact .inr ⟨e, g', .step happly hcarries, hperform⟩

/-- A plain transducer that can run carries out the operators of what it takes, and then moves; where an operator
fails it stays. -/
theorem readLive_cases (h : p.fault? = none) (g : Graph) (id : MachineId) :
    (∃ g', CarriesOut p.register id ((p.taken g id).flatMap (·.operators)) g none g' ∧
      readLive id (p, g) = .ok () (p.moveAlong (p.taken g id) id, g')) ∨
    ∃ e g', CarriesOut p.register id ((p.taken g id).flatMap (·.operators)) g (some e) g' ∧
      readLive id (p, g) = .error e (p, g') := by
  rw [readLive]
  simp only [h, carryOut_eq_perform]
  rcases carriesOut_perform p.register id ((p.taken g id).flatMap (·.operators)) g with
    ⟨g', hcarries, hperform⟩ | ⟨e, g', hcarries, hperform⟩
  · exact .inl ⟨g', hcarries, by rw [hperform]⟩
  · exact .inr ⟨e, g', hcarries, by rw [hperform]⟩

theorem getElem?_outOf_add (p : PlainTransducer) (e : Transition) (s i : Nat) :
    ((p.add e).outOf s)[i]? =
      if (s, i) = (e.source, (p.outOf e.source).length) then some e else (p.outOf s)[i]? := by
  have houtOf : (p.add e).outOf s = p.outOf s ++ if e.source = s then [e] else [] := by
    rw [outOf, PlainTransducer.add, List.filter_append, List.filter_cons]
    simp only [decide_eq_true_eq, List.filter_nil]
    rfl
  rw [houtOf]
  by_cases hs : e.source = s
  · subst hs
    rw [if_pos rfl, List.getElem?_append]
    simp only [Prod.mk.injEq, true_and]
    rcases Nat.lt_trichotomy i (p.outOf e.source).length with hlt | rfl | hgt
    · rw [if_pos hlt, if_neg hlt.ne]
    · rw [if_neg (Nat.lt_irrefl _), if_pos rfl, Nat.sub_self]
      rfl
    · rw [if_neg (Nat.lt_asymm hgt), if_neg hgt.ne', List.getElem?_eq_none hgt.le,
        List.getElem?_eq_none (Nat.sub_pos_of_lt hgt)]
  · rw [if_neg hs, List.append_nil, if_neg]
    intro hname
    exact hs (Prod.mk.inj hname).1.symm

end PlainTransducer

namespace Acceptor

theorem linear_lt : SortedList.Linear fun s s' : Nat => s < s' where
  trans a b c hab hbc := by
    simp only [decide_eq_true_eq] at hab hbc ⊢
    omega
  total a b := by
    simp only [decide_eq_true_eq]
    omega

theorem eq_sort_of_increasing {states : List Nat} (h : SortedList.Increasing (fun s s' => s < s') states)
    {set : Finset Nat} (hmem : ∀ s, s ∈ states ↔ s ∈ set) : states = set.sort (· ≤ ·) := by
  have hlt : states.Pairwise (· < ·) := h.imp of_decide_eq_true
  refine hlt.eq_of_mem_iff set.sortedLT_sort.pairwise fun s => ?_
  rw [hmem, Finset.mem_sort]

theorem states_eq_sort (states : List Nat) : Acceptor.states states = states.toFinset.sort (· ≤ ·) :=
  eq_sort_of_increasing (SortedList.increasing_ofList linear_lt states) fun s => by
    rw [SortedList.mem_ofList, List.mem_toFinset]

theorem addTo_sort (s : Nat) (set : Finset Nat) :
    Acceptor.addTo s (set.sort (· ≤ ·)) = (insert s set).sort (· ≤ ·) := by
  have hset : SortedList.Increasing (fun s s' => s < s') (set.sort (· ≤ ·)) :=
    set.sortedLT_sort.pairwise.imp decide_eq_true
  refine eq_sort_of_increasing (hset.insert linear_lt s) fun s' => ?_
  rw [SortedList.mem_insert, Finset.mem_sort, Finset.mem_insert]

end Acceptor

/-! ## In step -/

open PlainTransducer

namespace Transducer

variable {t : Transducer} {p : PlainTransducer} {g : Graph} {id : MachineId} {s : Nat}

theorem lookup_addEdge (t : Transducer) (source : Nat) (matcher : Matcher) (target : Nat) (ops : List Operator)
    (name : Nat × Nat) :
    (t.addEdge source matcher target ops).operators.lookup name =
      (t.operators.lookup name).or
        (if name = (source, (t.core.edgesFrom source).length) then (some ops).filter (!·.isEmpty) else none) := by
  rw [Transducer.addEdge, Option.filter_some]
  cases ops with
  | nil =>
    change t.operators.lookup name = (t.operators.lookup name).or (if _ then none else none)
    rw [ite_self, Option.or_none]
  | cons op ops =>
    change (t.operators ++ [((source, (t.core.edgesFrom source).length), op :: ops)]).lookup name =
      (t.operators.lookup name).or (if _ then some (op :: ops) else none)
    rw [List.lookup_append, List.lookup_cons, List.lookup_nil]
    congr 1
    by_cases hname : name = (source, (t.core.edgesFrom source).length)
    · rw [if_pos hname, beq_iff_eq.2 hname]
    · rw [if_neg hname, beq_eq_false_iff_ne.2 hname]

/-- The transducer stands for the plain one. -/
structure Agrees (t : Transducer) (p : PlainTransducer) : Prop where
  stateCount : t.core.stateCount = p.stateCount
  init : t.core.init = p.init.sort (· ≤ ·)
  final : t.core.final = p.final.sort (· ≤ ·)
  active : t.core.active = p.active.sort (· ≤ ·)
  edges : t.core.edges = p.transitions.map Transition.edge
  lookup_operators (s i : Nat) :
    t.operators.lookup (s, i) = ((p.outOf s)[i]?.map (·.operators)).filter (!·.isEmpty)
  register : t.register = p.register

namespace Agrees

theorem edgesFrom (h : t.Agrees p) (s : Nat) : t.core.edgesFrom s = (p.outOf s).map Transition.edge := by
  rw [Acceptor.edgesFrom, h.edges, List.filter_map]
  rfl

theorem operatorsOf (h : t.Agrees p) {i : Nat} {e : Transition} (he : (p.outOf s)[i]? = some e) :
    t.operatorsOf (s, i) = e.operators := by
  rw [Transducer.operatorsOf, h.lookup_operators, he, Option.map_some, Option.filter_some]
  cases e.operators <;> rfl

theorem map_opened (h : t.Agrees p) (g : Graph) (id : MachineId) :
    (t.core.opened g id).map (fun edge => (t.operatorsOf edge.1, edge.2)) =
      (p.taken g id).map fun e => (e.operators, e.target) := by
  rw [Acceptor.opened, taken, h.active, List.map_flatMap, List.map_flatMap]
  refine List.flatMap_congr fun s _ => ?_
  -- the transitions of the state, without and with their numbers
  have hplain : ((p.outOf s).filter (·.matcher.accepts g id)).map (fun e => (e.operators, e.target)) =
      (p.outOf s).zipIdx.filterMap fun x =>
        if x.1.matcher.accepts g id then some (x.1.operators, x.1.target) else none := by
    rw [← List.filterMap_eq_map, List.filterMap_filter]
    conv_lhs => rw [← List.zipIdx_map_fst 0 (p.outOf s), List.filterMap_map]
    rfl
  rw [h.edgesFrom, List.zipIdx_map, List.filterMap_map, List.map_filterMap, hplain]
  refine List.filterMap_congr fun x hx => ?_
  rw [← h.operatorsOf (List.mem_zipIdx_iff_getElem?.1 hx)]
  simp only [Function.comp_apply, Prod.map]
  change Option.map _ (if x.1.matcher.accepts g id then some ((s, x.2), x.1.target) else none) = _
  split <;> rfl

theorem flatMap_operatorsOf (h : t.Agrees p) (g : Graph) (id : MachineId) :
    (t.core.opened g id).flatMap (fun edge => t.operatorsOf edge.1) =
      (p.taken g id).flatMap (·.operators) := by
  have := congrArg (List.flatMap Prod.fst) (h.map_opened g id)
  rwa [List.flatMap_map, List.flatMap_map] at this

theorem map_targets (h : t.Agrees p) (g : Graph) (id : MachineId) :
    (t.core.opened g id).map (·.2) = (p.taken g id).map (·.target) := by
  have := congrArg (List.map Prod.snd) (h.map_opened g id)
  rwa [List.map_map, List.map_map] at this

theorem fault?_eq (h : t.Agrees p) : t.core.fault? = p.fault? := by
  have hempty : ∀ states : Finset Nat, (states.sort (· ≤ ·)).isEmpty = true ↔ states = ∅ := by
    intro states
    rw [List.isEmpty_iff, ← List.length_eq_zero_iff, Finset.length_sort, Finset.card_eq_zero]
  rw [Acceptor.fault?, PlainTransducer.fault?, h.stateCount, h.init, h.final]
  simp only [hempty]

theorem addState (h : t.Agrees p) (isInit isFinal : Bool) :
    (t.addState isInit isFinal).2.Agrees (p.addState isInit isFinal) where
  stateCount := by
    cases isInit <;> cases isFinal <;> exact congrArg (· + 1) h.stateCount
  init := by
    have hadded : Acceptor.addTo t.core.stateCount t.core.init = (insert p.stateCount p.init).sort (· ≤ ·) := by
      rw [h.stateCount, h.init, Acceptor.addTo_sort]
    cases isInit
    · cases isFinal <;> exact h.init
    · cases isFinal <;> exact hadded
  final := by
    have hadded : Acceptor.addTo t.core.stateCount t.core.final = (insert p.stateCount p.final).sort (· ≤ ·) := by
      rw [h.stateCount, h.final, Acceptor.addTo_sort]
    cases isFinal
    · cases isInit <;> exact h.final
    · cases isInit <;> exact hadded
  active := by
    cases isInit <;> cases isFinal <;> exact h.active
  edges := by
    cases isInit <;> cases isFinal <;> exact h.edges
  lookup_operators := h.lookup_operators
  register := h.register

theorem addEdge (h : t.Agrees p) (source : Nat) (matcher : Matcher) (target : Nat) (ops : List Operator) :
    (t.addEdge source matcher target ops).Agrees (p.add ⟨source, matcher, target, ops⟩) where
  stateCount := h.stateCount
  init := h.init
  final := h.final
  active := h.active
  edges := by
    change t.core.edges ++ _ = (p.transitions ++ _).map _
    rw [h.edges, List.map_append]
    rfl
  lookup_operators s i := by
    have hlength : (t.core.edgesFrom source).length = (p.outOf source).length := by
      rw [h.edgesFrom, List.length_map]
    rw [lookup_addEdge, h.lookup_operators, getElem?_outOf_add, hlength]
    by_cases hname : (s, i) = (source, (p.outOf source).length)
    · -- the state had no transition of that number yet
      obtain ⟨rfl, rfl⟩ := Prod.mk.inj hname
      rw [if_pos rfl, if_pos rfl, List.getElem?_eq_none le_rfl]
      rfl
    · rw [if_neg hname, if_neg hname, Option.or_none]
  register := h.register

theorem reset (h : t.Agrees p) : t.reset.Agrees p.reset where
  __ := h
  active := h.init
  register := rfl

theorem moveAlong (h : t.Agrees p) (g : Graph) (id : MachineId) :
    ({ t with core := t.core.moveTo ((t.core.opened g id).map (·.2)), register := t.register ++ [id] } :
      Transducer).Agrees (p.moveAlong (p.taken g id) id) where
  __ := h
  active := by
    rw [h.map_targets]
    exact Acceptor.states_eq_sort _
  register := congrArg (· ++ [id]) h.register

end Agrees

/-! ## What is seen after each call -/

def call : Call → EStateM Error (Transducer × Graph) Unit
  | .addState isInit isFinal => fun (t, g) => .ok () ((t.addState isInit isFinal).2, g)
  | .addEdge source matcher target ops => fun (t, g) => .ok () (t.addEdge source matcher target ops, g)
  | .reset => fun (t, g) => .ok () (t.reset, g)
  | .live id => Transducer.readLive id
  | .dry id => fun (t, g) =>
    match t.readDry g id with
    | .ok t' => .ok () (t', g)
    | .error e => .error e (t, g)

def sights (history : List Call) (g : Graph) : List Sight :=
  sightsOf call (·.core.active) (·.register) history (Transducer.empty, g)

/-- Both went well or failed with the same error, the graph is the same, and the transducers agree. -/
inductive SameOutcome : EStateM.Result Error (Transducer × Graph) Unit →
    EStateM.Result Error (PlainTransducer × Graph) Unit → Prop where
  | ok {t : Transducer} {p : PlainTransducer} (h : t.Agrees p) (g : Graph) :
      SameOutcome (.ok () (t, g)) (.ok () (p, g))
  | error {t : Transducer} {p : PlainTransducer} (h : t.Agrees p) (e : Error) (g : Graph) :
      SameOutcome (.error e (t, g)) (.error e (p, g))

theorem Agrees.empty : Transducer.empty.Agrees PlainTransducer.empty where
  stateCount := rfl
  init := (Finset.sort_empty _).symm
  final := (Finset.sort_empty _).symm
  active := (Finset.sort_empty _).symm
  edges := rfl
  lookup_operators _ _ := rfl
  register := rfl

theorem Agrees.readLive (h : t.Agrees p) (id : MachineId) (g : Graph) :
    SameOutcome (Transducer.readLive id (t, g)) (PlainTransducer.readLive id (p, g)) := by
  rw [Transducer.readLive, PlainTransducer.readLive]
  simp only [h.fault?_eq, carryOut_eq_perform, h.flatMap_operatorsOf, h.register]
  cases p.fault? with
  | some fault => exact .error h _ g
  | none =>
    simp only
    cases Transducer.perform p.register id ((p.taken g id).flatMap (·.operators)) g with
    | error e g' => exact .error h e g'
    | ok _ g' =>
      have hmoved := h.moveAlong g id
      rw [h.register] at hmoved
      exact .ok hmoved g'

theorem Agrees.readDry (h : t.Agrees p) (id : MachineId) (g : Graph) :
    SameOutcome (Transducer.call (.dry id) (t, g)) (PlainTransducer.readDry id (p, g)) := by
  simp only [Transducer.call, PlainTransducer.readDry, Transducer.readDry, Acceptor.read_eq, h.fault?_eq]
  cases p.fault? with
  | some fault => exact .error h _ g
  | none => exact .ok (h.moveAlong g id) g

theorem Agrees.call (h : t.Agrees p) (c : Call) (g : Graph) :
    SameOutcome (Transducer.call c (t, g)) (PlainTransducer.call c (p, g)) := by
  cases c with
  | addState isInit isFinal => exact .ok (h.addState isInit isFinal) g
  | addEdge source matcher target ops => exact .ok (h.addEdge source matcher target ops) g
  | reset => exact .ok h.reset g
  | live id => exact h.readLive id g
  | dry id => exact h.readDry id g

/-- The induction is on the history; what carries it on is that the transducers agree. -/
theorem Agrees.sights (h : t.Agrees p) (history : List Call) (g : Graph) :
    sightsOf Transducer.call (·.core.active) (·.register) history (t, g) =
      sightsOf PlainTransducer.call (·.active.sort (· ≤ ·)) (·.register) history (p, g) := by
  induction history generalizing t p g with
  | nil => rfl
  | cons c history ih =>
    have hcall := h.call c g
    rw [sightsOf, sightsOf]
    generalize Transducer.call c (t, g) = r, PlainTransducer.call c (p, g) = r' at hcall ⊢
    cases hcall with
    | ok h' g' => simp only [ih h', h'.active, h'.register]
    | error h' e g' => simp only [ih h', h'.active, h'.register]

theorem eq_of_call_error {c : Call} {e : Error} {t' : Transducer} {g' : Graph}
    (h : call c (t, g) = .error e (t', g')) : t' = t := by
  cases c with
  | addState isInit isFinal => cases h
  | addEdge source matcher target ops => cases h
  | reset => cases h
  | live id =>
    rw [call, readLive] at h
    split at h
    · cases h
      rfl
    · simp only at h
      split at h
      · cases h
        rfl
      · cases h
  | dry id =>
    rw [call] at h
    simp only at h
    split at h
    · cases h
    · cases h
      rfl

/-- After each call of a history, in which edges are added in whatever order and reads may fail, a transducer and
a plain one show the same error, graph, active states and register.  A live read of the plain one takes the
transitions out of active states whose matcher accepts the machine in the graph as it is before the operators: the
states in order, the transitions of each in the order they were added, and each as often as it was added.  It
carries out the operators of these, one after the other up to the first that fails, and moves if none does.  A call
that fails leaves the transducer as it was. -/
theorem sights_as_plain (history : List Call) (g : Graph) :
    Transducer.sights history g = PlainTransducer.sights history g ∧
    (∀ (p : PlainTransducer) (g : Graph) (id : MachineId),
      (p.taken g id).Pairwise (·.source ≤ ·.source) ∧
      (∀ s, (p.taken g id).filter (·.source = s) =
        p.transitions.filter fun e => e.source = s ∧ s ∈ p.active ∧ e.matcher.accepts g id = true) ∧
      (∀ fault, p.fault? = some fault →
        PlainTransducer.readLive id (p, g) = .error (.automaton fault) (p, g)) ∧
      (p.fault? = none →
        (∃ g', CarriesOut p.register id ((p.taken g id).flatMap (·.operators)) g none g' ∧
          PlainTransducer.readLive id (p, g) = .ok () (p.moveAlong (p.taken g id) id, g')) ∨
        ∃ e g', CarriesOut p.register id ((p.taken g id).flatMap (·.operators)) g (some e) g' ∧
          PlainTransducer.readLive id (p, g) = .error e (p, g'))) ∧
    ∀ (c : Call) (t t' : Transducer) (g g' : Graph) (e : Error),
      call c (t, g) = .error e (t', g') → t' = t := by
  refine ⟨Agrees.empty.sights history g, ?_, fun c t t' g g' e => eq_of_call_error⟩
  intro p g id
  refine ⟨pairwise_taken, filter_taken, ?_, fun h => readLive_cases h g id⟩
  intro fault hfault
  rw [PlainTransducer.readLive]
  simp only [hfault]

/-- The edges of two states are added in turns, some of them with operators; one leads to a state that was never
added.  `train` is read twice live, and once dry between. -/
def forked : List Call :=
  [.addState true false, .addState false true, .addEdge 1 (.exact "train") 7 [],
    .addEdge 0 (.exact "the") 1 [.setControl (some .concept)], .addEdge 0 (.exact "the") 0 [],
    .addEdge 1 (.exact "train") 1 [.appendEarlier 0 1],
    .addEdge 0 (.exact "train") 1 [.appendToEarlier 0 0, .appendEarlier 3 0, .setControl none],
    .reset, .live ⟨0, 1⟩, .live ⟨1, 1⟩, .dry ⟨1, 1⟩, .live ⟨1, 1⟩]

/-- A state with an edge to itself, the second operator of which looks for a machine that was not read. -/
def lookingBack : PlainTransducer :=
  { stateCount := 1, init := {0}, final := {0}, active := {0}, register := [⟨1, 1⟩]
    transitions := [⟨0, .exact "the", 0, [.appendToEarlier 0 2, .appendEarlier 1 0]⟩] }

/-- The first live `train` is held by `the` when the next operator finds no machine at its position, and nothing
moves; the second finds state 0 left, and succeeds. -/
theorem sights_as_plain_forked :
    ((PlainTransducer.sights forked theTrain).drop 7).map (fun seen => (seen.error?, seen.active, seen.register)) =
      [(none, [0], []), (none, [0, 1], [⟨0, 1⟩]),
        (some (.automaton .unreadPosition), [0, 1], [⟨0, 1⟩]), (none, [1, 7], [⟨0, 1⟩, ⟨1, 1⟩]),
        (none, [1, 7], [⟨0, 1⟩, ⟨1, 1⟩, ⟨1, 1⟩])] ∧
      ((PlainTransducer.sights forked theTrain).drop 9).map (fun seen =>
        (seen.graph.children ⟨0, 1⟩, seen.graph.children ⟨1, 1⟩)) =
        [(.ok [⟨1, 1⟩], .ok []), (.ok [⟨1, 1⟩], .ok []), (.ok [⟨1, 1⟩], .ok [⟨0, 1⟩])] ∧
      PlainTransducer.readLive ⟨0, 1⟩ (PlainTransducer.empty, theTrain) =
        .error (.automaton .noStates) (PlainTransducer.empty, theTrain) ∧
      lookingBack.fault? = none ∧
      (∃ error? g', CarriesOut [⟨1, 1⟩] ⟨0, 1⟩ ((lookingBack.taken theTrain ⟨0, 1⟩).flatMap (·.operators))
        theTrain error? g') ∧
      ∃ e t' g', call (.live ⟨0, 1⟩) (Transducer.empty, theTrain) = .error e (t', g') ∧ t' = Transducer.empty := by
  obtain ⟨hsights, hplain, hfails⟩ := sights_as_plain forked theTrain
  have hrun : lookingBack.fault? = none := by decide
  have hcall : call (.live ⟨0, 1⟩) (Transducer.empty, theTrain) =
    .error (.automaton .noStates) (Transducer.empty, theTrain) := rfl
  refine ⟨?_, ?_, (hplain PlainTransducer.empty theTrain ⟨0, 1⟩).2.2.1 .noStates rfl, hrun, ?_,
    _, _, _, hcall, hfails _ _ _ _ _ _ hcall⟩
  · rw [← hsights]
    decide +kernel
  · rw [← hsights]
    decide +kernel
  · rcases (hplain lookingBack theTrain ⟨0, 1⟩).2.2.2 hrun with ⟨g', hcarries, -⟩ | ⟨e, g', hcarries, -⟩
    · exact ⟨_, _, hcarries⟩
    · exact ⟨_, _, hcarries⟩

end Transducer

end MeaningGraph
