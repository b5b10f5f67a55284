/-
Blank characters: the property `White_Space`, and trimming by it.
-/
import MeaningGraph.Text.CodeRanges

namespace MeaningGraph.Text

/-- The characters with the property `White_Space`. -/
def blank : CodeRanges :=
  [(0x9, 0xD), (0x20, 0x20), (0x85, 0x85), (0xA0, 0xA0), (0x1680, 0x1680), (0x2000, 0x200A),
    (0x2028, 0x2029), (0x202F, 0x202F), (0x205F, 0x205F), (0x3000, 0x3000)]

def isBlank (c : Char) : Bool :=
  blank.contains c

/-- The text without the blanks at its two ends. -/
def trim (cs : List Char) : List Char :=
  ((cs.dropWhile isBlank).reverse.dropWhile isBlank).reverse

/-- The pieces of a text between line feeds, one more than there are line feeds. -/
def lines : List Char → List (List Char)
  | [] => [[]]
  | c :: cs =>
    if c = '\n' then [] :: lines cs
    else match lines cs with
      | [] => [[c]]
      | line :: rest => (c :: line) :: rest

/-- The trimmed lines of a text that hold something.  A line ends at a line feed; a carriage return
before it is blank, so trimming removes it. -/
def filledLines (text : String) : List String :=
  ((lines text.toList).map trim).filterMap fun line =>
    if line.isEmpty then none else some (String.ofList line)

end MeaningGraph.Text
