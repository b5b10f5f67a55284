/-
Patterns over text.

    empty            the empty text
    literal cs       the characters cs, one after the other
    set s            one character of the set
    look l           the empty text, where the condition holds
    rep p lo hi      p at least lo times and, if hi is given, at most hi times
    group i p        p; a group is numbered for the sake of its size alone
    seq ps           the patterns one after the other
    alt ps           one of the patterns

`Pattern.Build` makes patterns in which no part could be simplified away.
-/
import MeaningGraph.Pattern.CharSet
import MeaningGraph.Pattern.Look

namespace MeaningGraph

/-- A pattern. -/
inductive Pattern where
  | empty
  | literal (cs : List Char)
  | set (s : CharSet)
  | look (l : Look)
  | rep (p : Pattern) (lo : Nat) (hi : Option Nat)
  | group (index : Nat) (p : Pattern)
  | seq (ps : List Pattern)
  | alt (ps : List Pattern)
deriving Repr

namespace Pattern

/-- The pattern of a text. -/
def text (s : String) : Pattern :=
  .literal s.toList

mutual

/-- The two patterns are the same, the numbers of their groups included. -/
def same : Pattern → Pattern → Bool
  | .empty, .empty => true
  | .literal cs, .literal ds => cs == ds
  | .set s, .set t => s == t
  | .look l, .look k => l == k
  | .rep p lo hi, .rep q lo' hi' => same p q && lo == lo' && hi == hi'
  | .group i p, .group j q => i == j && same p q
  | .seq ps, .seq qs => sameAll ps qs
  | .alt ps, .alt qs => sameAll ps qs
  | _, _ => false

/-- The patterns of two lists are the same, one by one. -/
def sameAll : List Pattern → List Pattern → Bool
  | [], [] => true
  | p :: ps, q :: qs => same p q && sameAll ps qs
  | _, _ => false

end

end Pattern

end MeaningGraph
