/-
The bytes of characters in UTF-8, and of sets of characters.

A set is written as sequences of byte ranges: a character is in the set if and only if its bytes lie in
the ranges of one sequence, each byte in its own.  To get there a range of code points is cut where the
number of bytes changes.  Beyond ASCII it is cut further: where one byte of a sequence ranges, all bytes
after it take all their values.
-/
import MeaningGraph.Pattern.CharSet

namespace MeaningGraph.Encoding

/-- A range of bytes, or of code points. -/
abbrev Range := Nat × Nat

def bytes (n : Nat) : List Nat :=
  if n < 0x80 then [n]
  else if n < 0x800 then [0xC0 + n / 64, 0x80 + n % 64]
  else if n < 0x10000 then [0xE0 + n / 4096, 0x80 + n / 64 % 64, 0x80 + n % 64]
  else [0xF0 + n / 262144, 0x80 + n / 4096 % 64, 0x80 + n / 64 % 64, 0x80 + n % 64]

def bytesOf (cs : List Char) : List Nat :=
  cs.flatMap fun c => bytes c.toNat

/-- The ranges of code points whose characters take equally many bytes.  Surrogates are left out. -/
def bands : List Range :=
  [(0, 0x7F), (0x80, 0x7FF), (0x800, 0xD7FF), (0xE000, 0xFFFF), (0x10000, 0x10FFFF)]

def common? (r s : Range) : Option Range :=
  let lo := max r.1 s.1
  let hi := min r.2 s.2
  if lo ≤ hi then some (lo, hi) else none

/-- Cuts a range at the ends of blocks, so that each piece lies in one block or is made of whole ones,
and then the piece of whole blocks at the ends of blocks that are 64 times as large, and so on.  The
first number says how often. -/
def cut : Nat → Nat → Nat → Nat → List Range
  | 0, _, lo, hi => [(lo, hi)]
  | n + 1, block, lo, hi =>
    if lo / block = hi / block then [(lo, hi)]
    else
      let first := if lo % block = 0 then lo else (lo / block + 1) * block
      let last := if hi % block = block - 1 then hi + 1 else hi / block * block
      (if lo < first then [(lo, first - 1)] else []) ++
        (if first < last then cut n (block * 64) first (last - 1) else []) ++
        if last ≤ hi then [(last, hi)] else []

/-- The sequences of byte ranges for a range of code points that lies in one band. -/
def sequencesIn (r : Range) : List (List Range) :=
  if r.2 < 0x80 then [[r]]
  else (cut 3 64 r.1 r.2).map fun piece => (bytes piece.1).zip (bytes piece.2)

/-- The sequences of byte ranges for the set, in rising order. -/
def sequences (s : CharSet) : List (List Range) :=
  s.ranges.flatMap fun r => bands.flatMap fun band => ((common? r band).map sequencesIn).getD []

end MeaningGraph.Encoding
