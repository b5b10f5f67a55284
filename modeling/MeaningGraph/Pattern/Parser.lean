/-
The reading of written patterns.

    .  ^  $  |                   any character but an end of line, the two ends, alternatives
    (  (?:  (?<name>  (?P<name>  groups
    (?i)  (?i-m:                 flags, to the end of the group around them or for a group of their own
    *  +  ?  {n}  {n,}  {n,m}    repetitions; a `?` after one does not change what matches
    \d  \n  \x41  \p{Greek}      escapes
    [a-z]                        sets in brackets

The reader keeps a stack of the groups that are open.  A group collects the items of the alternative
being read and the alternatives read before it.  A repetition binds to the item right before it, so it
needs one: nothing, a bar, an opening parenthesis and a change of flags are no items.

A pattern that is nested too deeply, or whose automaton would be too large, is refused.
-/
import MeaningGraph.Pattern.Bracket
import MeaningGraph.Pattern.Automaton.Limit
import MeaningGraph.Pattern.Occurrence

namespace MeaningGraph.Pattern

/-- The deepest nesting that a pattern may have. -/
def nestLimit : Nat := 250

/-- An item of the alternative being read: its pattern, the depth of its nesting, and whether it can be
repeated. -/
structure Item where
  pattern : Pattern
  depth : Nat := 0
  repeats : Bool := true
deriving Repr

namespace Item

/-- The depth of several items; two or more are nested one level deeper. -/
def depthOf : List Item → Nat
  | [item] => item.depth
  | items => if items.isEmpty then 0 else (items.map Item.depth).foldl max 0 + 1

/-- The items one after the other. -/
def row (items : List Item) : Item :=
  { pattern := .sequence (items.map Item.pattern), depth := depthOf items }

/-- One of the items. -/
def either (items : List Item) : Item :=
  { pattern := .choice (items.map Item.pattern), depth := depthOf items }

def repeated (lo : Nat) (hi : Option Nat) (item : Item) : Item :=
  { pattern := item.pattern.repeated lo hi, depth := item.depth + 1 }

end Item

/-- A group that is still open: its number, if it has one, the flags in force, and the alternatives and
the items of the last alternative, both in reverse. -/
structure Group where
  index : Option Nat
  flags : Flags
  before : List Item := []
  items : List Item := []
deriving Repr

namespace Group

/-- Adds an item to the alternative being read. -/
def push (item : Item) (g : Group) : Group :=
  { g with items := item :: g.items }

/-- Ends the alternative being read. -/
def bar (g : Group) : Group :=
  { g with before := .row g.items.reverse :: g.before, items := [] }

/-- What stands in the group. -/
def content (g : Group) : Item :=
  .either (g.bar.before.reverse)

/-- The item that the closed group is. -/
def close (g : Group) : Item :=
  let item := g.content
  let pattern := match g.index with
    | some i => .group i item.pattern
    | none => item.pattern
  { pattern, depth := item.depth + 1 }

/-- Repeats the last item. -/
def repeat? (lo : Nat) (hi : Option Nat) (g : Group) : Option Group :=
  match g.items with
  | item :: items =>
    if item.repeats && item.depth < nestLimit then
      some { g with items := item.repeated lo hi :: items }
    else none
  | [] => none

end Group

/-- The state of the reader: the innermost group, those around it, the number of groups that were
numbered, and their names. -/
structure Reader where
  top : Group
  outer : List Group := []
  groups : Nat := 0
  names : List (List Char) := []
deriving Repr

/-! ## Repetitions -/

/-- Counts are words of 32 bits. -/
def countLimit : Nat := UInt32.size

/-- Reads decimal digits after the number `n`; `seen` tells that there was one.  The fuel bounds their
number. -/
def digits? (f : Flags) : Nat → Nat → Bool → List Char → Option (Nat × List Char)
  | fuel + 1, n, seen, c :: cs =>
    if c.isDigit then digits? f fuel (10 * n + (c.toNat - '0'.toNat)) true (f.skip cs)
    else if seen then some (n, c :: cs) else none
  | _, _, _, _ => none

/-- Reads a decimal count with blanks around it. -/
def count? (f : Flags) (cs : List Char) : Option (Nat × List Char) := do
  let cs := cs.dropWhile Text.isBlank
  let (n, rest) ← digits? f (cs.length + 1) 0 false cs
  if n < countLimit then return (n, f.skip (rest.dropWhile Text.isBlank)) else none

/-- Drops the question mark that makes a repetition prefer short matches. -/
def dropLazy : List Char → List Char
  | '?' :: cs => cs
  | cs => cs

/-- Reads the bounds of a repetition, after the opening brace. -/
def bounds? (f : Flags) (cs : List Char) : Option (Nat × Option Nat × List Char) := do
  let (lo, rest) ← count? f (f.skip cs)
  match rest with
  | '\x7d' :: rest => return (lo, some lo, dropLazy (f.skip rest))
  | ',' :: rest =>
    match f.skip rest with
    | '\x7d' :: rest => return (lo, none, dropLazy (f.skip rest))
    | rest =>
      match ← count? f rest with
      | (hi, '\x7d' :: rest) =>
        if lo ≤ hi then return (lo, some hi, dropLazy (f.skip rest)) else none
      | _ => none
  | _ => none

/-! ## Groups -/

/-- The character can stand in the name of a group, or at its beginning. -/
def isNameChar (first : Bool) (c : Char) : Bool :=
  c == '_' || Text.Property.alphabetic.contains c ||
    !first && (c == '.' || c == '[' || c == ']' || Text.Category.number.contains c)

/-- Reads the name of a group up to the closing angle bracket. -/
def groupName? (cs : List Char) : Option (List Char × List Char) :=
  let name := cs.takeWhile (· != '>')
  match name, cs.dropWhile (· != '>') with
  | first :: others, _ :: rest =>
    if isNameChar true first && others.all (isNameChar false) then some (name, rest) else none
  | _, _ => none

namespace Reader

def openNumbered (r : Reader) : Reader :=
  { r with
    top := { index := some (r.groups + 1), flags := r.top.flags }
    outer := r.top :: r.outer
    groups := r.groups + 1 }

/-- Opens a numbered group with a name, which no group before it may have. -/
def openNamed? (r : Reader) (cs : List Char) : Option (Reader × List Char) := do
  let (name, rest) ← groupName? cs
  if name ∈ r.names then none
  else return ({ r.openNumbered with names := name :: r.names }, rest)

/-- Reads what an opening parenthesis opens, or a change of flags.  Looking around is refused. -/
def openGroup? (r : Reader) (cs : List Char) : Option (Reader × List Char) :=
  match cs with
  | '?' :: 'P' :: '<' :: cs => r.openNamed? cs
  | '?' :: '<' :: c :: cs => if c = '=' ∨ c = '!' then none else r.openNamed? (c :: cs)
  | '?' :: cs => do
    let change ← r.top.flags.change? true [] cs
    if change.opensGroup then
      return ({ r with top := { index := none, flags := change.flags }, outer := r.top :: r.outer },
        change.rest)
    else if change.isEmpty then none
    else
      let top := { r.top with flags := change.flags }
      return ({ r with top := top.push { pattern := .empty, repeats := false } }, change.rest)
  | cs => some (r.openNumbered, cs)

def closeGroup? (r : Reader) : Option Reader :=
  match r.outer with
  | [] => none
  | next :: outer =>
    let item := r.top.close
    if item.depth ≤ nestLimit then some { r with top := next.push item, outer } else none

/-- Adds a pattern that is not nested. -/
def push (r : Reader) (p : Pattern) : Reader :=
  { r with top := r.top.push { pattern := p } }

def repeat? (r : Reader) (lo : Nat) (hi : Option Nat) : Option Reader :=
  (r.top.repeat? lo hi).map fun top => { r with top }

/-- Reads what begins with the character `c`. -/
def step? (r : Reader) (c : Char) (cs : List Char) : Option (Reader × List Char) :=
  let f := r.top.flags
  match c with
  | '(' => r.openGroup? (f.skip cs)
  | ')' => r.closeGroup?.map (·, cs)
  | '|' => some ({ r with top := r.top.bar }, cs)
  | '[' => do
    let (s, rest) ← Bracket.read? f cs
    return ({ r with top := r.top.push { pattern := .ofSet s.set, depth := s.depth } }, rest)
  | '?' => (r.repeat? 0 (some 1)).map (·, dropLazy cs)
  | '*' => (r.repeat? 0 none).map (·, dropLazy cs)
  | '+' => (r.repeat? 1 none).map (·, dropLazy cs)
  | '\x7b' => do
    let (lo, hi, rest) ← bounds? f cs
    return (← r.repeat? lo hi, rest)
  | '.' => f.dot?.map fun p => (r.push p, cs)
  | '^' => some (r.push (.look f.caret), cs)
  | '$' => some (r.push (.look f.dollar), cs)
  | '\\' => do
    let (e, rest) ← Escape.read? f cs
    return (r.push (← e.pattern? f), rest)
  | c => some (r.push (f.charPattern c), cs)

/-- Reads a pattern to its end.  The fuel bounds the number of steps; each takes at least one
character. -/
def run? : Nat → Reader → List Char → Option Reader
  | fuel, r, cs =>
    match r.top.flags.skip cs, fuel with
    | [], _ => some r
    | _, 0 => none
    | c :: cs, fuel + 1 => (r.step? c cs).bind fun (r, rest) => run? fuel r rest

/-- The item that was read, if every group is closed. -/
def item? (r : Reader) : Option Item :=
  if r.outer.isEmpty then some r.top.content else none

end Reader

/-- Reads a written pattern. -/
def parse? (text : String) : Option Pattern := do
  let cs := text.toList
  let reader ← Reader.run? cs.length { top := { index := none, flags := {} } } cs
  let item ← reader.item?
  if item.depth ≤ nestLimit && item.pattern.isWithinLimit then return item.pattern else none

end MeaningGraph.Pattern
