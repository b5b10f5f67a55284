/-
Escapes: what a backslash makes of the characters after it.

    \n \t \r \f \v \a                controls
    \x41 \u0041 \U00000041           a character by its number; also \x{41}, with any letter
    \d \s \w  \D \S \W               digits, blanks, word characters, and their complements
    \pL \p{Greek}  \PL \P{Greek}     sets called by name, and their complements
    \A \z \b \B \< \>                conditions; also \b{start} \b{end} \b{start-half} \b{end-half}
    \. \[ \#                         any other ASCII character but letters and digits, for itself
-/
import MeaningGraph.Pattern.Flags
import MeaningGraph.Pattern.NamedSet

namespace MeaningGraph.Pattern

/-- What an escape stands for.  A byte is what `\xNN` beyond ASCII stands for where characters are
ASCII. -/
inductive Escape where
  | char (c : Char)
  | byte (n : Nat)
  | set (s : CharSet)
  | look (l : Look)
deriving Repr

namespace Escape

/-! ## Characters by number -/

def hexDigit? (c : Char) : Option Nat :=
  if c.isDigit then some (c.toNat - '0'.toNat)
  else if 'a' ≤ c ∧ c ≤ 'f' then some (c.toNat - 'a'.toNat + 10)
  else if 'A' ≤ c ∧ c ≤ 'F' then some (c.toNat - 'A'.toNat + 10)
  else none

/-- The character of that number. -/
def charOf? (n : Nat) : Option Char :=
  if n.isValidChar then some (Char.ofNat n) else none

/-- Reads exactly so many digits in base sixteen after the number `n`. -/
def fixedHex? (f : Flags) : Nat → Nat → List Char → Option (Nat × List Char)
  | 0, n, cs => some (n, cs)
  | _ + 1, _, [] => none
  | k + 1, n, c :: cs => (hexDigit? c).bind fun d => fixedHex? f k (16 * n + d) (f.skip cs)

/-- Cuts the text at the closing brace.  The fuel bounds the number of characters before it. -/
def untilBrace? (f : Flags) : Nat → List Char → Option (List Char × List Char)
  | 0, _ => none
  | fuel + 1, cs =>
    match f.skip cs with
    | [] => none
    | '\x7d' :: rest => some ([], rest)
    | c :: rest => (untilBrace? f fuel rest).map fun (content, rest) => (c :: content, rest)

/-- The number that the digits spell in base sixteen; there must be one. -/
def hexValue? (digits : List Char) : Option Nat :=
  if digits.isEmpty then none
  else digits.foldlM (fun n c => (hexDigit? c).map fun d => 16 * n + d) 0

/-- Reads the number of a character, after the letter, of so many digits if there is no brace. -/
def numbered? (f : Flags) (digits : Nat) (cs : List Char) : Option (Escape × List Char) :=
  match f.skip cs with
  | '\x7b' :: rest => do
    let (content, rest) ← untilBrace? f (rest.length + 1) rest
    let c ← (hexValue? content).bind charOf?
    return (.char c, f.skip rest)
  | rest => do
    let (n, rest) ← fixedHex? f digits 0 rest
    let c ← charOf? n
    return (if digits = 2 && !f.unicode && n > 0x7F then .byte n else .char c, rest)

/-! ## Sets by name -/

/-- Reads the name of a set, after the letter. -/
def namedSet? (f : Flags) (negated : Bool) (cs : List Char) : Option (Escape × List Char) :=
  if !f.unicode then none
  else match f.skip cs with
    | [] => none
    | '\x7b' :: rest => do
      let (content, rest) ← untilBrace? f (rest.length + 1) rest
      let s ← NamedSet.find? content
      return (.set (← f.written? negated s), rest)
    | '\\' :: _ => none
    | c :: rest => do
      let s ← NamedSet.named? [c]
      return (.set (← f.written? negated s), rest)

/-! ## Conditions -/

/-- The edges of words that are called by name. -/
def edges : List (String × WordEdge) :=
  [("start", .start), ("end", .finish), ("start-half", .startHalf), ("end-half", .finishHalf)]

/-- Reads what may follow `\b`: the name of an edge in braces.  A brace that no letter and no hyphen
follows is left alone. -/
def edge? (f : Flags) (cs : List Char) : Option (WordEdge × List Char) :=
  match cs with
  | '\x7b' :: rest =>
    match f.skip rest with
    | [] => none
    | c :: _ =>
      if c.isAlpha || c == '-' then do
        let (content, rest) ← untilBrace? f (rest.length + 1) rest
        let e ← edges.lookup (String.ofList content)
        return (e, rest)
      else some (.edge, cs)
  | _ => some (.edge, cs)

/-- The control of an escaped letter. -/
def control? : Char → Option Char
  | 'n' => some '\n'
  | 't' => some '\t'
  | 'r' => some '\r'
  | 'f' => some '\x0c'
  | 'v' => some '\x0b'
  | 'a' => some '\x07'
  | _ => none

/-- The character can be escaped to stand for itself. -/
def isPlain (c : Char) : Bool :=
  c.toNat < 128 && !c.isAlphanum && c != '<' && c != '>'

/-- Reads an escape, after the backslash. -/
def read? (f : Flags) : List Char → Option (Escape × List Char)
  | [] => none
  | c :: cs =>
    match c with
    | 'x' => numbered? f 2 cs
    | 'u' => numbered? f 4 cs
    | 'U' => numbered? f 8 cs
    | 'p' => namedSet? f false cs
    | 'P' => namedSet? f true cs
    | 'A' => some (.look .textStart, cs)
    | 'z' => some (.look .textEnd, cs)
    | 'b' => (edge? f cs).map fun (e, rest) => (.look (.word e !f.unicode), rest)
    | 'B' => some (.look (.word .noEdge !f.unicode), cs)
    | '<' => some (.look (.word .start !f.unicode), cs)
    | '>' => some (.look (.word .finish !f.unicode), cs)
    | c =>
      if c ∈ ['d', 's', 'w', 'D', 'S', 'W'] then (f.classSet? c).map fun s => (.set s, cs)
      else if isPlain c then some (.char c, cs)
      else (control? c).map fun d => (.char d, cs)

/-- The pattern of an escape outside brackets. -/
def pattern? (f : Flags) : Escape → Option Pattern
  | .char c => some (f.charPattern c)
  | .byte _ => none
  | .set s => some (.ofSet s)
  | .look l => some (.look l)

end Escape

end MeaningGraph.Pattern
