/-
Controls: the optional annotation of a machine.

    train/NOUN                    the part of speech NOUN
    haz/NOUN<PLUR><CAS<ACC>>      a KR code

An analyzer tag is a stem, a slash and a code, or a bare code; only the part after the last slash
counts.
-/
import MeaningGraph.Error
import MeaningGraph.KRCode.Parser
import MeaningGraph.Message

namespace MeaningGraph

/-- The annotation of a machine. -/
inductive Control where
  | pos (tag : String)
  | kr (code : KRCode)
  | concept
  | plugin (call : PluginCall)
deriving DecidableEq, Repr

inductive ControlKind where
  | pos
  | kr
  | concept
  | plugin
deriving DecidableEq, Repr

/-- The number of a kind, a power of two, so that sums of them stand for sets. -/
def ControlKind.bit : ControlKind → Nat
  | .pos => 1
  | .kr => 2
  | .concept => 4
  | .plugin => 8

/-- The kinds that carry a part of speech. -/
def ControlKind.posTyped : List ControlKind :=
  [.pos, .kr]

namespace Control

def kind : Control → ControlKind
  | .pos _ => .pos
  | .kr _ => .kr
  | .concept => .concept
  | .plugin _ => .plugin

/-- The text that part-of-speech patterns search; concepts and plugins have none. -/
def posText? : Control → Option String
  | .pos tag => some tag
  | .kr code => some code.render
  | .concept => none
  | .plugin _ => none

/-- The part of a tag after its last slash, all of it when there is none. -/
def tagCode (tag : List Char) : List Char :=
  (tag.reverse.takeWhile (· != '/')).reverse

/-- Reads an analyzer tag.  A code with an opening bracket has to be a KR code; any other code that
is not empty is a part of speech as it stands. -/
def ofTag (tag : String) : Except Error Control :=
  let code := tagCode tag.toList
  if code.isEmpty then .error (.invalidTag tag)
  else if code.contains '<' then
    match KRCode.parse? (String.ofList code) with
    | some k => .ok (.kr k)
    | none => .error (.invalidTag tag)
  else .ok (.pos (String.ofList code))

end Control

end MeaningGraph
