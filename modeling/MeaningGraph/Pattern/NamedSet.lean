/-
The sets that patterns call by name.

    \p{Lu}  \p{Letter}  \pL            a general category
    \p{Alphabetic}  \p{White_Space}    a property that a character has or has not
    \p{Greek}  \p{Grek}                a script
    \p{any}  \p{assigned}  \p{ascii}
    \p{gc=Lu}  \p{sc:Greek}  \p{scx=Greek}

Names are compared loosely: small and capital letters are the same, and spaces, low lines, hyphens and
an `is` in front do not count.
-/
import MeaningGraph.Pattern.CharSet
import MeaningGraph.Text.Category.Name
import MeaningGraph.Text.Property.Name
import MeaningGraph.Text.Script

namespace MeaningGraph.NamedSet

/-- The name without an `is` in front. -/
def dropIs : List Char → List Char
  | i :: s :: rest => if i.toLower = 'i' && s.toLower = 's' then rest else i :: s :: rest
  | name => name

/-- The form in which names are compared.  A name `isc` keeps its `is`: it is no name of the
category `C`. -/
def looseName (name : List Char) : String :=
  let letters := (dropIs name).filter fun c => c.toNat < 0x80 && !(c == ' ' || c == '_' || c == '-')
  let loose := letters.map Char.toLower
  if loose == ['c'] && name != dropIs name then "isc" else String.ofList loose

def category? (name : String) : Option CharSet :=
  if name = "any" then some .all
  else if name = "assigned" then some (CharSet.ofRanges Text.Category.unassigned).compl
  else if name = "ascii" then some (.ofRanges [(0, 0x7F)])
  else (Text.Category.byName.lookup name).map .ofRanges

def script? (name : String) : Option CharSet :=
  (Text.Script.ranges? name).map .ofRanges

/-- The set of that name: a property, or else a general category, or else a script. -/
def named? (name : List Char) : Option CharSet :=
  let name := looseName name
  (Text.Property.byName.lookup name).map CharSet.ofRanges <|> category? name <|> script? name

/-- The set of the characters that have the value under the name. -/
def valued? (name value : List Char) : Option CharSet :=
  let name := looseName name
  let value := looseName value
  if name = "gc" ∨ name = "generalcategory" then category? value
  else if name = "sc" ∨ name = "script" then script? value
  else if name = "scx" ∨ name = "scriptextensions" then
    (Text.Script.extension? value).map .ofRanges
  else none

/-- The text before the first place where the separator stands, and the text after it. -/
def splitAt? (separator : List Char) : List Char → Option (List Char × List Char)
  | [] => none
  | c :: cs =>
    if separator.isPrefixOf (c :: cs) then some ([], (c :: cs).drop separator.length)
    else (splitAt? separator cs).map fun (before, after) => (c :: before, after)

/-- The set that a text in braces calls for.  `!=`, `:` and `=` all part a name from its value. -/
def find? (content : List Char) : Option CharSet :=
  match splitAt? ['!', '='] content <|> splitAt? [':'] content <|> splitAt? ['='] content with
  | some (name, value) => valued? name value
  | none => named? content

end MeaningGraph.NamedSet
