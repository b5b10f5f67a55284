/-
Transducers: acceptors whose edges also change the graph.

    s0 --[ART]--> s1 --[NOUN / appendEarlier 0 0]--> s2
    read the      register = [the]
    read train    partition 0 of train gains the; register = [the, train]

A read finds the opened edges first, then carries out their operators in order, and moves only after
that.  The register holds the machines read since the last reset, for operators to refer to.  A dry read
moves in the same way and leaves the graph alone.
-/
import MeaningGraph.Acceptor

namespace MeaningGraph

/-- A change of the graph; positions count the machines read before the current one. -/
inductive Operator where
  /-- Appends the current machine to a partition of the machine at the position. -/
  | appendToEarlier (position partition : Nat)
  /-- Appends the machine at the position to a partition of the current machine. -/
  | appendEarlier (position partition : Nat)
  /-- Sets the current machine's control. -/
  | setControl (control : Option Control)
deriving DecidableEq, Repr

/-- Carries out one operator. -/
def Operator.apply (register : List MachineId) (current : MachineId) (g : Graph) :
    Operator → Except Error Graph
  | .appendToEarlier position partition =>
    match register[position]? with
    | some earlier => g.append earlier current partition
    | none => .error (.automaton .unreadPosition)
  | .appendEarlier position partition =>
    match register[position]? with
    | some earlier => g.append current earlier partition
    | none => .error (.automaton .unreadPosition)
  | .setControl control => g.setControl current control

/-- An acceptor, the operators of its edges, and the machines read so far.  An edge is named by its
source and its number among the edges of that source; edges without operators have no entry. -/
structure Transducer where
  core : Acceptor := {}
  operators : List ((Nat × Nat) × List Operator) := []
  register : List MachineId := []
deriving Repr

namespace Transducer

def empty : Transducer := {}

instance : Inhabited Transducer := ⟨empty⟩

def addState (isInit isFinal : Bool) (t : Transducer) : Nat × Transducer :=
  let (s, core) := t.core.addState isInit isFinal
  (s, { t with core })

def addEdge (source : Nat) (matcher : Matcher) (target : Nat) (ops : List Operator)
    (t : Transducer) : Transducer :=
  let name := (source, (t.core.edgesFrom source).length)
  { t with
    core := t.core.addEdge source matcher target
    operators := if ops.isEmpty then t.operators else t.operators ++ [(name, ops)] }

def operatorsOf (t : Transducer) (edge : Nat × Nat) : List Operator :=
  (t.operators.lookup edge).getD []

def reset (t : Transducer) : Transducer :=
  { t with core := t.core.reset, register := [] }

/-- Carries out operators in order; what was done before one fails stays done. -/
def perform (register : List MachineId) (current : MachineId) :
    List Operator → EStateM Error Graph Unit
  | [], g => .ok () g
  | op :: ops, g =>
    match op.apply register current g with
    | .ok g => perform register current ops g
    | .error e => .error e g

/-- Reads a machine without touching the graph. -/
def readDry (g : Graph) (id : MachineId) (t : Transducer) : Except Error Transducer := do
  let core ← t.core.read g id
  return { t with core, register := t.register ++ [id] }

/-- Reads a machine and carries out the operators of the opened edges.  If one fails the transducer
does not move. -/
def readLive (id : MachineId) : EStateM Error (Transducer × Graph) Unit := fun (t, g) =>
  match t.core.fault? with
  | some fault => .error (.automaton fault) (t, g)
  | none =>
    let opened := t.core.opened g id
    match perform t.register id (opened.flatMap fun edge => t.operatorsOf edge.1) g with
    | .error e g => .error e (t, g)
    | .ok () g =>
      .ok () ({ t with core := t.core.moveTo (opened.map (·.2)), register := t.register ++ [id] }, g)

/-- Reads a sequence and carries out the operators on the way. -/
def readAll : List MachineId → EStateM Error (Transducer × Graph) Unit
  | [] => pure ()
  | id :: ids => do
    readLive id
    readAll ids

end Transducer

end MeaningGraph
