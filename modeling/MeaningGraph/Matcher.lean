/-
Matchers: yes-or-no questions about one machine.

    printname p    the pattern occurs in the name
    pos p          the pattern occurs in the text of a part of speech or KR code
    concept        the control is the concept marker
    kind ks        the control's kind is one of ks
    member ns      the name is one of ns
    negate, all, any

`exact n` is the pattern of the name `n` alone.  It takes the machines of that name, unless the name is so long
that its automaton is too large: then it takes none.

Matchers never fail.  A stale handle, a missing control and a control of the wrong kind answer no at
every leaf, so a bad machine can only keep a rule from applying; `negate` turns that no around.
-/
import MeaningGraph.Graph.Basic
import MeaningGraph.Pattern.Parser
import MeaningGraph.Pattern.Verbatim

namespace MeaningGraph

/-- A question about one machine. -/
inductive Matcher where
  | printname (p : Pattern)
  | pos (p : Pattern)
  | concept
  | kind (kinds : List ControlKind)
  | member (names : List String)
  | negate (m : Matcher)
  | all (ms : List Matcher)
  | any (ms : List Matcher)
deriving Repr

namespace Matcher

/-- The matcher for a written name pattern. -/
def ofNamePattern (text : String) : Except Error Matcher :=
  match Pattern.parse? text with
  | some p => .ok (.printname p)
  | none => .error .invalidPattern

/-- The matcher for one name. -/
@[irreducible]
def exact (name : String) : Matcher :=
  match Pattern.parse? (String.ofList (Pattern.verbatim name.toList)) with
  | some p => .printname p
  | none => .any []

/-- The matcher for a written part-of-speech pattern. -/
def ofPosPattern (text : String) : Except Error Matcher :=
  match Pattern.parse? text with
  | some p => .ok (.pos p)
  | none => .error .invalidPattern

/-- The matcher for the names listed in a text, one a line. -/
def ofNameList (text : String) : Matcher :=
  .member (Text.filledLines text)

mutual

/-- The matcher says yes to the machine. -/
def accepts (g : Graph) (id : MachineId) : Matcher → Bool
  | .printname p => (g.name? id).any p.occursIn
  | .pos p => ((g.control? id).bind Control.posText?).any p.occursIn
  | .concept => (g.control? id).any fun c => c.kind = .concept
  | .kind kinds => (g.control? id).any fun c => c.kind ∈ kinds
  | .member names => (g.name? id).any fun name => name ∈ names
  | .negate m => !m.accepts g id
  | .all ms => acceptsAll g id ms
  | .any ms => acceptsAny g id ms

def acceptsAll (g : Graph) (id : MachineId) : List Matcher → Bool
  | [] => true
  | m :: ms => m.accepts g id && acceptsAll g id ms

def acceptsAny (g : Graph) (id : MachineId) : List Matcher → Bool
  | [] => false
  | m :: ms => m.accepts g id || acceptsAny g id ms

end

theorem acceptsAll_eq_all (g : Graph) (id : MachineId) (ms : List Matcher) :
    acceptsAll g id ms = ms.all (accepts g id) := by
  induction ms with
  | nil => rfl
  | cons m ms ih => rw [acceptsAll, ih, List.all_cons]

theorem acceptsAny_eq_any (g : Graph) (id : MachineId) (ms : List Matcher) :
    acceptsAny g id ms = ms.any (accepts g id) := by
  induction ms with
  | nil => rfl
  | cons m ms ih => rw [acceptsAny, ih, List.any_cons]

end Matcher

end MeaningGraph
