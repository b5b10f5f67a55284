/-
Verb rules: the arguments of a verb are linked to it by deep case.

The definition of the verb names the cases it expects: every child of a partition from 1 on whose
name is a known deep case is an argument, to be put into that partition.  For `n` arguments the automaton
is a state before the verb and a cube of `2 ^ n` states, one for each set of arguments already met:

              verb
      pre ───────────▶ {} ──FROM──▶ {FROM}
     (init)          (init) │           │ TO
                         TO │           ▼
                            └─▶ {TO} ──FROM──▶ {FROM, TO}  (final)

So the arguments may come in any order, and the verb itself may be missing.  The set `mask` of
arguments, as a binary number, is state `mask + 1`.
-/
import MeaningGraph.Rule.Basic
import MeaningGraph.DeepCase
import MeaningGraph.Acceptor

namespace MeaningGraph

/-- An expected argument: its case, the partition it goes to, and what recognises it. -/
structure Argument where
  deepCase : String
  partition : Nat
  matcher : Matcher
deriving Repr

/-- A rule that links the arguments of a verb. -/
structure VerbRule where
  verb : String
  control : Option Control
  arguments : List Argument
  automaton : Acceptor
deriving Repr

namespace VerbRule

/-- At most this many arguments are linked. -/
def maxArguments : Nat := 8

/-- The numbered partitions of a machine from 1 on. -/
def argumentLinks (m : Machine) : List (Nat × MachineId) :=
  (m.parts.zipIdx.drop 1).flatMap fun (part, p) => part.map (p, ·)

/-- The arguments among numbered children, in order. -/
def discoverIn (g : Graph) (cases : DeepCases) :
    List (Nat × MachineId) → Except Error (List (String × Nat × Matcher))
  | [] => .ok []
  | (p, child) :: rest => do
    let name ← g.name child
    let more ← discoverIn g cases rest
    match cases.find? name with
    | some matcher => return (name, p, matcher) :: more
    | none => return more

/-- The arguments that a definition expects, in order of the partitions. -/
def discover (g : Graph) (definition : MachineId) (cases : DeepCases) :
    Except Error (List Argument) := do
  let m ← g.get definition
  let found ← discoverIn g cases (argumentLinks m)
  return found.map fun (name, p, matcher) => ⟨name, p, matcher⟩

/-- The edges out of the state of the set `mask`: each argument not yet in it adds itself. -/
def edgesAt (arguments : List Argument) (mask : Nat) : List Edge :=
  arguments.zipIdx.filterMap fun (argument, bit) =>
    if mask.testBit bit then none else some ⟨mask + 1, argument.matcher, mask + (1 <<< bit) + 1⟩

/-- The automaton of a verb with the given arguments. -/
def hypercube (verb : String) (arguments : List Argument) : Acceptor where
  stateCount := (1 <<< arguments.length) + 1
  init := [0, 1]
  final := [1 <<< arguments.length]
  edges := ⟨0, .exact verb, 1⟩ :: (List.range (1 <<< arguments.length)).flatMap (edgesAt arguments)

/-- The rule for a verb from its definition; none if the verb has no definition or expects no
argument. -/
def ofLexicon? (l : Lexicon) (verb : String) (cases : DeepCases) :
    Except Error (Option VerbRule) :=
  match l.static? verb with
  | none => .ok none
  | some definition => do
    let arguments ← discover l.graph definition cases
    if arguments.isEmpty then return none
    let arguments := arguments.take maxArguments
    return some ⟨verb, l.graph.control? definition, arguments, hypercube verb arguments⟩

/-- The expected cases with their partitions. -/
def expected (r : VerbRule) : List (String × Nat) :=
  r.arguments.map fun a => (a.deepCase, a.partition)

def isVerb (r : VerbRule) (g : Graph) (id : MachineId) : Bool :=
  g.name? id == some r.verb

/-- The machine hangs off the verb in an argument partition.  The verb is the given token, or any
machine of its name when there is none. -/
def isLinked (r : VerbRule) (g : Graph) (token : Option MachineId) (id : MachineId) : Bool :=
  (g.find? id).any fun m => m.parents.any fun link =>
    (match token with
      | some token => link.parent == token
      | none => r.isVerb g link.parent) &&
    r.arguments.any (·.partition = link.partition)

/-- Some argument of the sequence is not linked yet, or there are none. -/
def lastCheck (r : VerbRule) (g : Graph) (seq : List MachineId) : Bool :=
  let token := seq.find? (r.isVerb g)
  let rest := seq.filter fun id => some id != token
  rest.isEmpty || !rest.all (r.isLinked g token)

/-- Splits off the first machine with the name of the verb; those before it have to be live. -/
def split (r : VerbRule) (g : Graph) :
    List MachineId → Except Error (Option MachineId × List MachineId)
  | [] => .ok (none, [])
  | id :: ids => do
    let name ← g.name id
    if name = r.verb then return (some id, ids)
    let (token, rest) ← r.split g ids
    return (token, id :: rest)

/-- Gives each machine an argument of its own that matches it, the first possible choice in
lexicographic order; `used` are the arguments already given. -/
def assign (r : VerbRule) (g : Graph) : List MachineId → List Nat → Option (List Nat)
  | [], _ => some []
  | id :: ids, used =>
    r.arguments.zipIdx.findSome? fun (argument, k) =>
      if used.contains k || !argument.matcher.accepts g id then none
      else (r.assign g ids (k :: used)).map (k :: ·)

/-- The machine that is reported when there are not enough arguments: the first that matches none, else
the first. -/
def stray (r : VerbRule) (g : Graph) (ids : List MachineId) : Option MachineId :=
  (ids.find? fun id => !r.arguments.any (·.matcher.accepts g id)) <|> ids.head?

/-- Links machines to the verb, each into the partition of its argument. -/
def link (r : VerbRule) (verb : MachineId) : List (MachineId × Nat) → LexiconM Unit
  | [] => pure ()
  | (id, k) :: rest => do
    match r.arguments[k]? with
    | some argument => Lexicon.changeGraph (·.append verb id argument.partition)
    | none => pure ()
    link r verb rest

/-- Links the arguments of the sequence to the verb in it, or else to the first active instance of the
verb, which then takes the control of the definition. -/
def act (r : VerbRule) (seq : List MachineId) : LexiconM (Option (List MachineId)) := do
  let l ← get
  if !r.lastCheck l.graph seq then return none
  let (token, ids) ← Lexicon.ask fun l => r.split l.graph seq
  match token <|> l.firstInstance? r.verb with
  | none => return none
  | some verb =>
    let control := match token with
      | some token => l.graph.control? token
      | none => r.control
    match r.assign l.graph ids [] with
    | none =>
      let name ← match r.stray l.graph ids with
        | some id => Lexicon.ask (·.graph.name id)
        | none => pure ""
      throw (.unknownDeepCase r.verb name)
    | some slots =>
      Lexicon.changeGraph (·.setControl verb control)
      r.link verb (ids.zip slots)
      return some [verb]

instance : Rule VerbRule where
  name r := "verb:" ++ r.verb
  kind _ := .semantic
  check g seq := fun r =>
    Rule.onPart (fun automaton => { r with automaton }) (Acceptor.accepts g seq) r.automaton
  refused? r g seq := r.automaton.reset.refused? g seq
  lastCheck := VerbRule.lastCheck
  act seq := Rule.onLexicon (·.act seq)

end VerbRule

end MeaningGraph
