/-
The flags of a pattern, and what depends on them.

    i   letters stand for their other case too
    m   `^` and `$` stand at the ends of lines
    s   `.` stands for the ends of lines too
    R   lines end with a carriage return, a line feed, or both
    U   repetitions prefer short matches, which makes no difference here
    u   letters, digits and words are those of all scripts; set unless cleared
    x   blanks and comments between the parts of a pattern are passed over

Without `u` a set may hold ASCII characters only.
-/
import MeaningGraph.Pattern.Build
import MeaningGraph.Text.Blank
import MeaningGraph.Text.Digit

namespace MeaningGraph.Pattern

/-- The flags in force at a place of a pattern. -/
structure Flags where
  caseless : Bool := false
  multiLine : Bool := false
  dotAll : Bool := false
  crlf : Bool := false
  unicode : Bool := true
  verbose : Bool := false
deriving DecidableEq, Repr

namespace Flags

/-- The flags with the one of that letter set or cleared. -/
def put? (f : Flags) (on : Bool) : Char → Option Flags
  | 'i' => some { f with caseless := on }
  | 'm' => some { f with multiLine := on }
  | 's' => some { f with dotAll := on }
  | 'R' => some { f with crlf := on }
  | 'U' => some f
  | 'u' => some { f with unicode := on }
  | 'x' => some { f with verbose := on }
  | _ => none

/-- What a change of flags leads to: the flags, whether there was a change, whether a colon ended it,
and the rest of the pattern. -/
structure Change where
  flags : Flags
  isEmpty : Bool
  opensGroup : Bool
  rest : List Char

/-- Reads a change of flags up to the `:` or `)` that ends it.  `seen` are the characters read so far,
the last one first.  No character may stand twice, and no hyphen last. -/
def change? (f : Flags) (on : Bool) (seen : List Char) : List Char → Option Change
  | [] => none
  | c :: cs =>
    if c = ':' ∨ c = ')' then
      if seen.head? = some '-' then none else some ⟨f, seen.isEmpty, c == ':', cs⟩
    else if c ∈ seen then none
    else if c = '-' then change? f false (c :: seen) cs
    else (f.put? on c).bind fun f => change? f on (c :: seen) cs

/-! ## Blanks and comments -/

/-- Drops blanks, and comments, which go from `#` to the end of the line. -/
def dropIgnored (inComment : Bool) : List Char → List Char
  | [] => []
  | c :: cs =>
    if inComment then dropIgnored (c != '\n') cs
    else if Text.isBlank c then dropIgnored false cs
    else if c = '#' then dropIgnored true cs
    else c :: cs

/-- The rest of the pattern from the first character that counts. -/
def skip (f : Flags) (cs : List Char) : List Char :=
  if f.verbose then dropIgnored false cs else cs

/-! ## Sets and characters -/

/-- The characters, or bytes, that are not in the set. -/
def compl (f : Flags) (s : CharSet) : CharSet :=
  if f.unicode then s.compl else s.compl.inter (CharSet.ofRanges [(0, 0xFF)])

/-- The set with the other case of its letters, if case does not count. -/
def close (f : Flags) (s : CharSet) : CharSet :=
  if !f.caseless then s else if f.unicode then s.closeCase else s.closeAsciiCase

/-- The set, if it may stand in a pattern. -/
def allowed? (f : Flags) (s : CharSet) : Option CharSet :=
  if f.unicode || s.within 0x7F then some s else none

/-- The set that is written by another one and possibly a sign for its complement. -/
def written? (f : Flags) (negated : Bool) (s : CharSet) : Option CharSet :=
  let s := f.close s
  f.allowed? (if negated then f.compl s else s)

/-- The set of an escape `\d`, `\s` or `\w`, or with a capital letter of its complement. -/
def classSet? (f : Flags) (letter : Char) : Option CharSet :=
  let set : Option CharSet := match letter.toLower with
    | 'd' => if f.unicode then some (.ofRanges Text.digit) else CharSet.asciiClass? "digit"
    | 's' => if f.unicode then some (.ofRanges Text.blank) else CharSet.asciiClass? "space"
    | 'w' => if f.unicode then some (.ofRanges Text.word) else CharSet.asciiClass? "word"
    | _ => none
  set.bind fun s => f.allowed? (if letter.isUpper then f.compl s else s)

def charPattern (f : Flags) (c : Char) : Pattern :=
  if f.unicode || c.toNat ≤ 0x7F then .ofSet (f.close (.single c)) else .literal [c]

/-- The pattern of the full stop: any character but the ends of lines. -/
def dot? (f : Flags) : Option Pattern :=
  if !f.unicode then none
  else if f.dotAll then some (.ofSet .all)
  else some (.ofSet (CharSet.ofRanges ((if f.crlf then [('\r'.toNat, '\r'.toNat)] else []) ++
    [('\n'.toNat, '\n'.toNat)])).compl)

/-- The condition of `^`. -/
def caret (f : Flags) : Look :=
  if f.multiLine then .lineStart f.crlf else .textStart

/-- The condition of `$`. -/
def dollar (f : Flags) : Look :=
  if f.multiLine then .lineEnd f.crlf else .textEnd

end Flags

end MeaningGraph.Pattern
