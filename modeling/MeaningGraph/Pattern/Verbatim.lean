/-
The written pattern of one text alone.

    the       ^the$
    3.5 (a)   ^3\.5 \(a\)$

What means something else in a pattern is escaped, also what does so in a set or a verbose pattern only.
-/
namespace MeaningGraph.Pattern

/-- The characters that are escaped. -/
def special : List Char :=
  ['\\', '.', '+', '*', '?', '(', ')', '|', '[', ']', '\x7b', '\x7d', '^', '$', '#', '&', '-', '~']

def escape (c : Char) : List Char :=
  if c ∈ special then ['\\', c] else [c]

/-- The characters, escaped, between the start and the end of a text. -/
def verbatim (cs : List Char) : List Char :=
  '^' :: (cs.flatMap escape ++ ['$'])

end MeaningGraph.Pattern
