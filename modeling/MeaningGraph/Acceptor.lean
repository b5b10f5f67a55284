/-
Acceptors: finite automata that read machines.

    reset        active = init
    step m       active = targets of the edges out of active states whose matcher accepts m
    inFinal      some active state is final

The automaton is nondeterministic; the active states are a set, kept in increasing order.  States are
numbered in the order they are added; edges and markings may name states that were never added.
-/
import MeaningGraph.Matcher

namespace MeaningGraph

/-- An edge that a machine opens if the matcher accepts it. -/
structure Edge where
  source : Nat
  matcher : Matcher
  target : Nat
deriving Repr

/-- A finite automaton over machines, with its active states.  Edges stand in the order they were
added. -/
structure Acceptor where
  stateCount : Nat := 0
  init : List Nat := []
  final : List Nat := []
  edges : List Edge := []
  active : List Nat := []
deriving Repr

namespace Acceptor

/-- The set of the listed states. -/
def states (ss : List Nat) : List Nat :=
  SortedList.ofList (fun s t => s < t) ss

def addTo (s : Nat) (set : List Nat) : List Nat :=
  SortedList.insert (fun s t => s < t) s set

def empty : Acceptor := {}

instance : Inhabited Acceptor := ⟨empty⟩

/-! ## Building -/

def markInit (s : Nat) (a : Acceptor) : Acceptor :=
  { a with init := addTo s a.init }

def markFinal (s : Nat) (a : Acceptor) : Acceptor :=
  { a with final := addTo s a.final }

/-- Adds a state; its number is the number of states before. -/
def addState (isInit isFinal : Bool) (a : Acceptor) : Nat × Acceptor :=
  let s := a.stateCount
  let a := { a with stateCount := s + 1 }
  let a := if isInit then a.markInit s else a
  (s, if isFinal then a.markFinal s else a)

def addEdge (source : Nat) (matcher : Matcher) (target : Nat) (a : Acceptor) : Acceptor :=
  { a with edges := a.edges ++ [⟨source, matcher, target⟩] }

/-- The edges out of a state, in the order they were added. -/
def edgesFrom (a : Acceptor) (s : Nat) : List Edge :=
  a.edges.filter (·.source = s)

/-! ## Running -/

/-- What keeps the automaton from running, the gravest fault first. -/
def fault? (a : Acceptor) : Option AutomatonFault :=
  if a.stateCount = 0 then some .noStates
  else if a.init.isEmpty then some .noInitialState
  else if a.final.isEmpty then some .noFinalState
  else none

/-- Fails if the automaton cannot run. -/
def validate (a : Acceptor) : Except Error Unit :=
  match a.fault? with
  | some fault => .error (.automaton fault)
  | none => .ok ()

/-- The initial states become active. -/
def reset (a : Acceptor) : Acceptor :=
  { a with active := a.init }

/-- The edges out of the active states that the machine opens: the active states in order, the edges
of each in the order they were added.  An edge is named by its source and its number among the edges
of that source. -/
def opened (a : Acceptor) (g : Graph) (id : MachineId) : List ((Nat × Nat) × Nat) :=
  a.active.flatMap fun s =>
    (a.edgesFrom s).zipIdx.filterMap fun (e, i) =>
      if e.matcher.accepts g id then some ((s, i), e.target) else none

/-- The given states become active. -/
def moveTo (targets : List Nat) (a : Acceptor) : Acceptor :=
  { a with active := states targets }

/-- Reads one machine. -/
def step (g : Graph) (id : MachineId) (a : Acceptor) : Acceptor :=
  a.moveTo ((a.opened g id).map (·.2))

/-- Some active state is final. -/
def atFinal (a : Acceptor) : Bool :=
  a.active.any fun s => a.final.contains s

/-- Reads one machine, if the automaton can run. -/
def read (g : Graph) (id : MachineId) (a : Acceptor) : Except Error Acceptor := do
  a.validate
  return a.step g id

/-- Some active state is final, if the automaton can run. -/
def inFinal (a : Acceptor) : Except Error Bool := do
  a.validate
  return a.atFinal

/-- Reads a sequence from the active states on, and stops when none is left. -/
def scan (g : Graph) : List MachineId → Acceptor → Bool × Acceptor
  | [], a => (a.atFinal, a)
  | id :: ids, a =>
    let a := a.step g id
    if a.active.isEmpty then (false, a) else scan g ids a

/-- The shortest beginning of a sequence after which no state is active, if there is one.  No sequence that
begins so is accepted. -/
def refused? (g : Graph) : List MachineId → Acceptor → Option (List MachineId)
  | [], _ => none
  | id :: ids, a =>
    let a := a.step g id
    if a.active.isEmpty then some [id] else (refused? g ids a).map (id :: ·)

theorem scan_of_refused? {g : Graph} {seq beginning : List MachineId} {a : Acceptor}
    (h : a.refused? g seq = some beginning) :
    beginning <+: seq ∧ ∀ rest, (a.scan g (beginning ++ rest)).1 = false := by
  induction seq generalizing a beginning with
  | nil => cases h
  | cons id ids ih =>
    simp only [refused?] at h
    split at h
    · rename_i hEmpty
      cases h
      exact ⟨⟨ids, rfl⟩, fun rest => by simp [scan, hEmpty]⟩
    · rename_i hActive
      obtain ⟨inner, hInner, rfl⟩ := Option.map_eq_some_iff.1 h
      obtain ⟨⟨tail, hTail⟩, hScan⟩ := ih hInner
      refine ⟨⟨tail, by rw [List.cons_append, hTail]⟩, fun rest => ?_⟩
      simpa [scan, hActive] using hScan rest

/-- Whether the automaton, started afresh, accepts a sequence; the states reached stay active. -/
def accepts (g : Graph) (seq : List MachineId) : EStateM Error Acceptor Bool := fun a =>
  let a := a.reset
  match a.fault? with
  | some fault => .error (.automaton fault) a
  | none =>
    let (answer, a) := a.scan g seq
    .ok answer a

end Acceptor

end MeaningGraph
