/-
How long the matches of a pattern are, and which conditions a pattern opens and closes with.

`least?` and `most?` bound the length of a match in characters.  A pattern with a part that cannot match
has no least length.  A pattern without a bound, or with a part that cannot match, has no greatest.
-/
import MeaningGraph.Pattern.Basic

namespace MeaningGraph.Pattern

/-- The sum, if both numbers are there. -/
def addLengths (m n : Option Nat) : Option Nat :=
  m.bind fun m => n.map (m + ·)

/-- `f` of the two numbers, if both are there. -/
def bothLengths (f : Nat → Nat → Nat) (m n : Option Nat) : Option Nat :=
  m.bind fun m => n.map (f m)

mutual

/-- The length of the shortest match. -/
def least? : Pattern → Option Nat
  | .empty => some 0
  | .literal cs => some cs.length
  | .set s => if s.ranges.isEmpty then none else some 1
  | .look _ => some 0
  | .rep p lo _ => p.least?.map (lo * ·)
  | .group _ p => p.least?
  | .seq ps => leastSum? ps
  | .alt ps => leastOf? ps

/-- The length of the shortest match of the patterns in a row. -/
def leastSum? : List Pattern → Option Nat
  | [] => some 0
  | p :: ps => addLengths p.least? (leastSum? ps)

/-- The least of the lengths, if each pattern has one. -/
def leastOf? : List Pattern → Option Nat
  | [] => none
  | [p] => p.least?
  | p :: ps => bothLengths min p.least? (leastOf? ps)

end

mutual

/-- The length of the longest match. -/
def most? : Pattern → Option Nat
  | .empty => some 0
  | .literal cs => some cs.length
  | .set s => if s.ranges.isEmpty then none else some 1
  | .look _ => some 0
  | .rep p _ hi => hi.bind fun hi => p.most?.map (hi * ·)
  | .group _ p => p.most?
  | .seq ps => mostSum? ps
  | .alt ps => mostOf? ps

/-- The length of the longest match of the patterns in a row. -/
def mostSum? : List Pattern → Option Nat
  | [] => some 0
  | p :: ps => addLengths p.most? (mostSum? ps)

/-- The greatest of the lengths, if each pattern has one. -/
def mostOf? : List Pattern → Option Nat
  | [] => none
  | [p] => p.most?
  | p :: ps => bothLengths max p.most? (mostOf? ps)

end

/-! ## Conditions at the two ends -/

mutual

/-- Every match begins with a check of the condition. -/
def opensWith (l : Look) : Pattern → Bool
  | .look k => k == l
  | .rep p lo _ => lo > 0 && p.opensWith l
  | .group _ p => p.opensWith l
  | .seq ps => openingHas l ps
  | .alt ps => allOpenWith l ps
  | _ => false

/-- One of the patterns up to the first that can be longer than empty opens with the condition. -/
def openingHas (l : Look) : List Pattern → Bool
  | [] => false
  | p :: ps => p.opensWith l || p.most? == some 0 && openingHas l ps

/-- Every pattern of the list opens with the condition. -/
def allOpenWith (l : Look) : List Pattern → Bool
  | [] => true
  | p :: ps => p.opensWith l && allOpenWith l ps

end

/-- The longest match of every pattern of the list is empty. -/
def allEmpty (ps : List Pattern) : Bool :=
  ps.all fun p => p.most? == some 0

mutual

/-- Every match ends with a check of the condition. -/
def closesWith (l : Look) : Pattern → Bool
  | .look k => k == l
  | .rep p lo _ => lo > 0 && p.closesWith l
  | .group _ p => p.closesWith l
  | .seq ps => closingHas l ps
  | .alt ps => allCloseWith l ps
  | _ => false

/-- One of the patterns after the last that can be longer than empty, or that one, closes with the
condition. -/
def closingHas (l : Look) : List Pattern → Bool
  | [] => false
  | p :: ps => closingHas l ps || allEmpty ps && p.closesWith l

/-- Every pattern of the list closes with the condition. -/
def allCloseWith (l : Look) : List Pattern → Bool
  | [] => true
  | p :: ps => p.closesWith l && allCloseWith l ps

end

end MeaningGraph.Pattern
