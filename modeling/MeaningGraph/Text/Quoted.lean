/-
Quoted text, for messages that list names.

A quote and a backslash take a backslash before them; line feed, tab, carriage return and NUL have a
letter each; every other character that does not show is written `\u{...}` with its number in
base sixteen.  All else stands as it is.
-/
import MeaningGraph.Text.Visible

namespace MeaningGraph.Text

/-- The spelling of one character inside quotes. -/
def quotedChar (c : Char) : List Char :=
  match c with
  | '"' => ['\\', '"']
  | '\\' => ['\\', '\\']
  | '\n' => ['\\', 'n']
  | '\t' => ['\\', 't']
  | '\r' => ['\\', 'r']
  | '\x00' => ['\\', '0']
  | c => if isVisible c then [c] else ['\\', 'u', '\x7b'] ++ Nat.toDigits 16 c.toNat ++ ['\x7d']

/-- The text between quotes. -/
def quoted (s : String) : String :=
  String.ofList ('"' :: s.toList.flatMap quotedChar ++ ['"'])

/-- A list of quoted texts in brackets. -/
def quotedList (names : List String) : String :=
  "[" ++ ", ".intercalate (names.map quoted) ++ "]"

end MeaningGraph.Text
