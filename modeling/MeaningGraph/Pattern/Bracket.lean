/-
Sets in brackets.

    [abc]  [a-z]  [^a]     characters, ranges, complements
    [\d\-]                 escapes
    [[:alpha:][:^digit:]]  ASCII classes
    [a[bc]]                sets in sets
    [a-z&&b]  --  ~~       intersection, difference, symmetric difference: all of one rank, from
                           left to right

A caret right after an opening bracket takes the complement; then hyphens stand for themselves, and so
does a closing bracket if it comes first.

The reader keeps a stack of the brackets that are open.  Beside each set it keeps how deeply it is
nested.
-/
import MeaningGraph.Pattern.Escape

namespace MeaningGraph.Pattern

/-- The operations between the parts of a set in brackets. -/
inductive SetOperation where
  | inter
  | diff
  | symmDiff
deriving DecidableEq, Repr

/-- The set that the operation makes of two sets. -/
def SetOperation.apply : SetOperation → CharSet → CharSet → CharSet
  | .inter => .inter
  | .diff => .diff
  | .symmDiff => .symmDiff

/-- A set with the depth of its nesting. -/
structure NestedSet where
  set : CharSet
  depth : Nat
deriving Repr

/-- A bracket that is still open: what stands left of the last operation, and the items read after
it. -/
structure Bracket where
  negated : Bool
  left : Option (NestedSet × SetOperation)
  items : List NestedSet
deriving Repr

namespace Bracket

/-- Adds an item to the union being read. -/
def push (item : NestedSet) (b : Bracket) : Bracket :=
  { b with items := item :: b.items }

/-- The union of the items.  Two or more of them are nested one level deeper. -/
def union : List NestedSet → NestedSet
  | [item] => item
  | items =>
    ⟨.ofRanges (items.flatMap fun item => item.set.ranges),
      if items.isEmpty then 0 else (items.map NestedSet.depth).foldl max 0 + 1⟩

/-- The set read so far, without the negation.  Under an operation each side is closed under case. -/
def value (f : Flags) (b : Bracket) : NestedSet :=
  let right := union b.items
  match b.left with
  | none => right
  | some (left, op) => ⟨op.apply (f.close left.set) (f.close right.set), max left.depth right.depth + 1⟩

/-- Puts an operation after what was read so far. -/
def operate (f : Flags) (op : SetOperation) (b : Bracket) : Bracket :=
  { b with left := some (b.value f, op), items := [] }

/-- The set of the closed bracket. -/
def close? (f : Flags) (b : Bracket) : Option NestedSet :=
  let v := b.value f
  (f.written? b.negated v.set).map fun s => ⟨s, v.depth + 1⟩

/-! ## Items -/

/-- A set that is not nested. -/
def flat (s : CharSet) : NestedSet :=
  ⟨s, 0⟩

/-- Reads a character or an escape. -/
def unit? (f : Flags) : List Char → Option (Escape × List Char)
  | [] => none
  | '\\' :: cs => Escape.read? f cs
  | c :: cs => some (.char c, cs)

/-- The number of what may be an end of a range: a character, which is to be ASCII if sets are, or a
byte. -/
def code? (f : Flags) : Escape → Option Nat
  | .char c => if f.unicode || c.toNat ≤ 0x7F then some c.toNat else none
  | .byte n => some n
  | _ => none

/-- The set of a lone item. -/
def single? (f : Flags) : Escape → Option CharSet
  | .set s => some s
  | e => (code? f e).map fun n => .ofRanges [(n, n)]

/-- The character that tells whether the hyphen before it makes a range: the first one after blanks and
one comment sign, or else the one right after the hyphen. -/
def afterHyphen? (f : Flags) (cs : List Char) : Option Char :=
  if !f.verbose then cs.head?
  else
    let rest := cs.dropWhile Text.isBlank
    let rest := if rest.head? = some '#' then (rest.drop 1).dropWhile Text.isBlank else rest
    rest.head? <|> cs.head?

/-- Reads an item or a range.  A hyphen before the closing bracket or before another hyphen makes no
range. -/
def item? (f : Flags) (cs : List Char) : Option (CharSet × List Char) := do
  let (first, rest) ← unit? f cs
  match f.skip rest with
  | '-' :: rest =>
    if afterHyphen? f rest = some ']' ∨ afterHyphen? f rest = some '-' then
      return (← single? f first, '-' :: rest)
    else
      let (last, rest) ← unit? f (f.skip rest)
      let lo ← code? f first
      let hi ← code? f last
      if lo ≤ hi then return (.ofRanges [(lo, hi)], rest) else none
  | rest => return (← single? f first, rest)

/-- Reads an ASCII class after its two opening characters.  The outer `none` stands for what is no such
class, the inner one for a class that may not stand here. -/
def asciiClass? (f : Flags) (cs : List Char) : Option (Option CharSet × List Char) :=
  let negated := cs.head? == some '^'
  let cs := if negated then cs.drop 1 else cs
  match cs.dropWhile (· != ':') with
  | ':' :: ']' :: rest =>
    (CharSet.asciiClass? (String.ofList (cs.takeWhile (· != ':')))).map fun s =>
      (f.written? negated s, rest)
  | _ => none

/-! ## Brackets -/

/-- Reads hyphens that stand for themselves, with the blanks after them.  The fuel bounds their
number. -/
def hyphens (f : Flags) : Nat → Bracket → List Char → Bracket × List Char
  | fuel + 1, b, '-' :: cs => hyphens f fuel (b.push (flat (.single '-'))) (f.skip cs)
  | _, b, cs => (b, cs)

/-- Reads what may stand right after an opening bracket. -/
def opened (f : Flags) (cs : List Char) : Bracket × List Char :=
  let cs := f.skip cs
  let negated := cs.head? == some '^'
  let cs := if negated then f.skip (cs.drop 1) else cs
  match hyphens f cs.length ⟨negated, none, []⟩ cs with
  | (⟨negated, none, []⟩, ']' :: cs) => (⟨negated, none, [flat (.single ']')]⟩, f.skip cs)
  | (b, cs) => (b, cs)

/-- Reads brackets to the end of the outermost one.  The fuel bounds the number of steps; each takes at
least one character. -/
def readWith? (f : Flags) : Nat → Bracket → List Bracket → List Char → Option (NestedSet × List Char)
  | 0, _, _, _ => none
  | fuel + 1, top, outer, cs =>
    match f.skip cs with
    | [] => none
    | ']' :: rest => do
      let s ← top.close? f
      match outer with
      | [] => return (s, rest)
      | next :: outer => readWith? f fuel (next.push s) outer rest
    | '[' :: ':' :: rest =>
      match asciiClass? f rest with
      | some (s, rest) => do readWith? f fuel (top.push (flat (← s))) outer rest
      | none =>
        let (inner, rest) := opened f (':' :: rest)
        readWith? f fuel inner (top :: outer) rest
    | '[' :: rest =>
      let (inner, rest) := opened f rest
      readWith? f fuel inner (top :: outer) rest
    | '&' :: '&' :: rest => readWith? f fuel (top.operate f .inter) outer rest
    | '-' :: '-' :: rest => readWith? f fuel (top.operate f .diff) outer rest
    | '~' :: '~' :: rest => readWith? f fuel (top.operate f .symmDiff) outer rest
    | cs => do
      let (s, rest) ← item? f cs
      readWith? f fuel (top.push (flat s)) outer rest

/-- Reads a set in brackets, after its opening bracket. -/
def read? (f : Flags) (cs : List Char) : Option (NestedSet × List Char) :=
  let (b, rest) := opened f cs
  readWith? f (cs.length + 1) b [] rest

end Bracket

end MeaningGraph.Pattern
