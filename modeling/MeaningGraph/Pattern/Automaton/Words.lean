/-
The size of the automaton of a choice between words.

The words are laid out as a tree: words that begin alike share the states of their beginning.  But a
word that ends at a node comes before the words that are listed after it, so those do not share branches
with the words listed before.  A node has a state for each such part of its words and one that leads to
the parts; the ends of all words are one state.
-/
import MeaningGraph.Pattern.Automaton.Size

namespace MeaningGraph.Automaton

/-- The words without the empty ones at the front but one. -/
def dropRepeatedEnds : List (List Nat) → List (List Nat)
  | [] :: [] :: rest => dropRepeatedEnds ([] :: rest)
  | words => words

/-- The parts of a list of words between the empty ones. -/
def partsBetweenEnds : List (List Nat) → List (List (List Nat))
  | [] => [[]]
  | [] :: rest => [] :: partsBetweenEnds rest
  | word :: rest =>
    match partsBetweenEnds rest with
    | part :: parts => (word :: part) :: parts
    | [] => [[word]]

/-- Adds a word to the tails of those with the same first byte. -/
def addTail (first : Nat) (tail : List Nat) :
    List (Nat × List (List Nat)) → List (Nat × List (List Nat))
  | [] => [(first, [tail])]
  | (b, tails) :: rest =>
    if b = first then (b, tails ++ [tail]) :: rest else (b, tails) :: addTail first tail rest

/-- The tails of the words by their first byte. -/
def tailsByFirst (words : List (List Nat)) : List (Nat × List (List Nat)) :=
  words.foldl (fun groups word =>
    match word with
    | [] => groups
    | b :: tail => addTail b tail groups) []

/-- The size of the tree of the words.  The first number bounds the length of a word. -/
def wordTree : Nat → List (List Nat) → Size
  | 0, _ => {}
  | depth + 1, words =>
    let parts := partsBetweenEnds (dropRepeatedEnds words)
    let node : Size := { states := 1, branches := parts.length - 1 }
    parts.foldl (fun size part =>
      match tailsByFirst part with
      | [] => size
      | groups =>
        let ranges := if groups.length = 1 then 0 else groups.length
        groups.foldl (fun size (_, tails) =>
            if tails.all List.isEmpty then size else size.add (wordTree depth tails))
          (size.add { states := 1, ranges, branches := 1 }))
      node

/-- The size with the automaton of a choice between words added. -/
def growWords? (words : List (List Nat)) (size : Size) : Option Size :=
  let depth := (words.map List.length).foldl max 0
  Size.grow? ((wordTree (depth + 1) words).add { states := 1 }) size

end MeaningGraph.Automaton
