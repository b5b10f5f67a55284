/-
The ways an operation can fail, and how each is reported.

A lookup that finds nothing where that is an ordinary answer is no error: rules that do not apply and
matchers that do not fit answer with `none` and `false`.
-/
import MeaningGraph.MachineId
import MeaningGraph.Text.Quoted

namespace MeaningGraph

/-- What is wrong with an automaton. -/
inductive AutomatonFault where
  | noStates
  | noInitialState
  | noFinalState
  | unreadPosition
deriving DecidableEq, Repr

/-- Why an operation failed. -/
inductive Error where
  /-- The handle names no live machine. -/
  | stale (id : MachineId)
  /-- The child is not in the partition it was to be removed from. -/
  | notFound (parent child : String) (partition : Nat)
  /-- The machine is not in the working set. -/
  | notActive (name : String)
  /-- The relation has several targets where one was asked for. -/
  | ambiguous (machine relation : String) (targets : List String)
  /-- The automaton cannot run. -/
  | automaton (fault : AutomatonFault)
  /-- No free deep case of the verb takes the argument. -/
  | unknownDeepCase (verb argument : String)
  /-- The written pattern is malformed. -/
  | invalidPattern
  /-- The analyzer tag is malformed. -/
  | invalidTag (tag : String)
  /-- The list of names cannot be read. -/
  | unreadable
  /-- A product does not fit in a word of 64 bits.  Nothing goes on after this one. -/
  | overflow
deriving DecidableEq, Repr

def AutomatonFault.message : AutomatonFault → String
  | .noStates => "no states"
  | .noInitialState => "no initial state"
  | .noFinalState => "no final state"
  | .unreadPosition => "operator refers to an unread position"

/-- A name between plain quotes; nothing in it is escaped. -/
def inQuotes (name : String) : String :=
  "\"" ++ name ++ "\""

def Error.message : Error → String
  | .stale id =>
    "stale or unknown machine handle MachineId \x7b index: " ++ toString id.index ++
      ", generation: " ++ toString id.generation ++ " \x7d"
  | .notFound parent child partition =>
    "machine " ++ inQuotes child ++ " not found in partition " ++ toString partition ++ " of " ++
      inQuotes parent
  | .notActive name => "machine " ++ inQuotes name ++ " is not an active instance"
  | .ambiguous machine relation targets =>
    "relation " ++ inQuotes relation ++ " of " ++ inQuotes machine ++ " is ambiguous: " ++
      Text.quotedList targets
  | .automaton fault => "automaton misconfigured: " ++ fault.message
  | .unknownDeepCase verb argument =>
    "verb " ++ inQuotes verb ++ " has no free deep case for argument " ++ inQuotes argument
  | .invalidPattern => "invalid matcher pattern"
  | .invalidTag tag => "invalid tag " ++ inQuotes tag
  | .unreadable => "failed to read the list of names"
  | .overflow => "attempt to multiply with overflow"

end MeaningGraph
