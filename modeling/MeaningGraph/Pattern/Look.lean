/-
Conditions on a position of a text.

A condition looks at the character before the position and the one after it, if there are any, so it
says the same in every text with these two neighbours.
-/
import MeaningGraph.Text.WordChar

namespace MeaningGraph

/-- How a position lies to the words beside it. -/
inductive WordEdge where
  | edge
  | noEdge
  | start
  | finish
  | startHalf
  | finishHalf
deriving DecidableEq, Repr

/-- A condition on a position.  With `crlf`, a carriage return ends a line too, and between the two
characters of such a line end there is no line.  With `ascii`, words are made of ASCII characters. -/
inductive Look where
  | textStart
  | textEnd
  | lineStart (crlf : Bool)
  | lineEnd (crlf : Bool)
  | word (side : WordEdge) (ascii : Bool)
deriving DecidableEq, Repr

/-- The condition, given whether a word character stands before and after the position. -/
def WordEdge.holds (before after : Bool) : WordEdge → Bool
  | .edge => before != after
  | .noEdge => before == after
  | .start => !before && after
  | .finish => before && !after
  | .startHalf => !before
  | .finishHalf => !after

/-- The character is part of a word. -/
def isWordMember (ascii : Bool) (c : Char) : Bool :=
  if ascii then c.isAlphanum || c == '_' else Text.isWordChar c

/-- The condition holds between the two characters. -/
def Look.holds (before after : Option Char) : Look → Bool
  | .textStart => before.isNone
  | .textEnd => after.isNone
  | .lineStart false => before.all (· == '\n')
  | .lineStart true => before.all fun c => c == '\n' || c == '\r' && after != some '\n'
  | .lineEnd false => after.all (· == '\n')
  | .lineEnd true => after.all fun c => c == '\r' || c == '\n' && before != some '\r'
  | .word side ascii => side.holds (before.any (isWordMember ascii)) (after.any (isWordMember ascii))

theorem Look.holds_textStart {before after : Option Char} :
    Look.textStart.holds before after = true ↔ before = none := by
  cases before <;> simp [holds]

theorem Look.holds_textEnd {before after : Option Char} :
    Look.textEnd.holds before after = true ↔ after = none := by
  cases after <;> simp [holds]

end MeaningGraph
