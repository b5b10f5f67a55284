/-
Sets of characters, as patterns combine them.

A set is kept in one form: ranges in rising order with a gap between any two.  So two sets with the same
characters are equal, and the number of ranges is a property of the set.
-/
import MeaningGraph.Text.LetterCase

namespace MeaningGraph

/-- A set of characters.  `ofRanges` brings any ranges into the form that is kept here. -/
structure CharSet where
  ranges : Text.CodeRanges
deriving DecidableEq, Repr

namespace CharSet

def lastCode : Nat := 0x10FFFF

/-- The code point after `n`; surrogates are passed over. -/
def next (n : Nat) : Nat :=
  if n = 0xD7FF then 0xE000 else n + 1

/-- The code point before `n`; surrogates are passed over. -/
def previous (n : Nat) : Nat :=
  if n = 0xE000 then 0xD7FF else n - 1

/-- Joins the range `r` to those after it, which begin no earlier, as far as they touch. -/
def joined (r : Nat × Nat) : Text.CodeRanges → Text.CodeRanges
  | [] => [r]
  | s :: rest => if s.1 ≤ next r.2 then joined (r.1, max r.2 s.2) rest else r :: joined s rest

/-- The set of the characters in some range. -/
def ofRanges (ranges : Text.CodeRanges) : CharSet :=
  match ranges.mergeSort fun r s => r.1 ≤ s.1 with
  | [] => ⟨[]⟩
  | r :: rest => ⟨joined r rest⟩

def none : CharSet :=
  ⟨[]⟩

def all : CharSet :=
  ⟨[(0, lastCode)]⟩

def single (c : Char) : CharSet :=
  ⟨[(c.toNat, c.toNat)]⟩

def contains (s : CharSet) (c : Char) : Bool :=
  s.ranges.contains c

/-! ## Operations -/

/-- The ranges between those of a set, from the code point `start` on. -/
def gaps (start : Nat) : Text.CodeRanges → Text.CodeRanges
  | [] => if start ≤ lastCode then [(start, lastCode)] else []
  | r :: rest =>
    if start < r.1 then (start, previous r.1) :: gaps (next r.2) rest else gaps (next r.2) rest

def compl (s : CharSet) : CharSet :=
  ⟨gaps 0 s.ranges⟩

def union (s t : CharSet) : CharSet :=
  ofRanges (s.ranges ++ t.ranges)

def inter (s t : CharSet) : CharSet :=
  (s.compl.union t.compl).compl

def diff (s t : CharSet) : CharSet :=
  s.inter t.compl

def symmDiff (s t : CharSet) : CharSet :=
  (s.diff t).union (t.diff s)

/-- The set together with the other spellings of its letters. -/
def closeCase (s : CharSet) : CharSet :=
  ofRanges s.ranges.closeCase

/-- As `closeCase`, for the ASCII letters alone. -/
def closeAsciiCase (s : CharSet) : CharSet :=
  let moved (lo hi offset : Nat) (up : Bool) : Text.CodeRanges :=
    s.ranges.filterMap fun r =>
      let first := max r.1 lo
      let last := min r.2 hi
      if first ≤ last then
        some (if up then (first + offset, last + offset) else (first - offset, last - offset))
      else Option.none
  ofRanges (s.ranges ++ moved 'A'.toNat 'Z'.toNat 32 true ++ moved 'a'.toNat 'z'.toNat 32 false)

/-! ## Properties of sets -/

/-- Every code point of the set is at most `n`. -/
def within (n : Nat) (s : CharSet) : Bool :=
  s.ranges.all fun r => r.2 ≤ n

/-- The only member of the set. -/
def member? (s : CharSet) : Option Char :=
  match s.ranges with
  | [(lo, hi)] => if lo = hi then some (Char.ofNat lo) else Option.none
  | _ => Option.none

/-- The ASCII classes, which are written `[:name:]` inside brackets. -/
def asciiClasses : List (String × List (Char × Char)) :=
  [("alnum", [('0', '9'), ('A', 'Z'), ('a', 'z')]),
    ("alpha", [('A', 'Z'), ('a', 'z')]),
    ("ascii", [('\x00', '\x7f')]),
    ("blank", [('\t', '\t'), (' ', ' ')]),
    ("cntrl", [('\x00', '\x1f'), ('\x7f', '\x7f')]),
    ("digit", [('0', '9')]),
    ("graph", [('!', '~')]),
    ("lower", [('a', 'z')]),
    ("print", [(' ', '~')]),
    ("punct", [('!', '/'), (':', '@'), ('[', '\x60'), ('\x7b', '~')]),
    ("space", [('\t', '\r'), (' ', ' ')]),
    ("upper", [('A', 'Z')]),
    ("word", [('0', '9'), ('A', 'Z'), ('_', '_'), ('a', 'z')]),
    ("xdigit", [('0', '9'), ('A', 'F'), ('a', 'f')])]

def asciiClass? (name : String) : Option CharSet :=
  (asciiClasses.lookup name).map fun ranges =>
    ofRanges (ranges.map fun r => (r.1.toNat, r.2.toNat))

end CharSet

end MeaningGraph
