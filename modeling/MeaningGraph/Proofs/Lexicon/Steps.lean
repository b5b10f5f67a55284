/-
# The operations on the working set, step by step

Each operation as a chain of steps, in which a choice is a step of its own and is followed by one
continuation.  What is proved of an operation is proved along its chain.

    represent   name of the child, then  link the active instance
                                     or  choose a target, register it, link it
    expand      name, activity, then     flag                         without definition
                                     or  represent all, flag          with one
    promote     arguments, then          nothing                      if one is not active
                                     or  create, register
    merge       activity, then           nothing
                                     or  name, then unify with the active instance, or register

What chains have when their steps do is `Stepwise`.  A property of this kind is shown of the steps that change
something, and then goes through the operations by the lemmas at the end.
-/
import MeaningGraph.Lexicon.Expand
import MeaningGraph.Lexicon.Merge

namespace MeaningGraph.Lexicon

/-- The target that represents a child without active instance: a child of the name which the machine has
already, or else a copy. -/
def chooseTarget (id : MachineId) (p : Nat) (source : MachineId) (name : String) :
    LexiconM MachineId :=
  ask (·.childNamed id p name) >>= fun found =>
    match found with
    | some child => pure child
    | none => grow (·.deepCopy source)

/-- Registers a target and links it. -/
def linkTarget (id : MachineId) (p : Nat) (target : MachineId) : LexiconM (Option MachineId) :=
  addActive [target] >>= fun _ => changeGraph (·.append id target p) >>= fun _ => pure (some target)

theorem represent_eq (id : MachineId) (p : Nat) (source : MachineId) :
    represent id p source =
      ask (·.graph.name source) >>= fun name => get >>= fun l =>
        match l.firstInstance? name with
        | some target => changeGraph (·.append id target p) >>= fun _ => pure none
        | none => chooseTarget id p source name >>= linkTarget id p := by
  unfold represent
  congr 1
  funext name
  congr 1
  funext l
  cases l.firstInstance? name with
  | some target => rfl
  | none =>
    funext l
    simp only [chooseTarget, bind, EStateM.bind]
    cases ask (·.childNamed id p name) l with
    | error e l => rfl
    | ok found l => cases found <;> rfl

/-- What expanding does with an active machine of the given name. -/
def expandActive (id : MachineId) (name : String) : LexiconM (List MachineId) :=
  get >>= fun l =>
    match l.static? name with
    | none => setExpanded id >>= fun _ => pure []
    | some definition =>
      ask (·.graph.get definition) >>= fun m =>
        representAll id (Graph.numberedLinks m) >>= fun registered =>
          setExpanded id >>= fun _ => pure registered

theorem expand_eq (id : MachineId) :
    expand id =
      ask (·.graph.name id) >>= fun name => get >>= fun l =>
        if l.isActive id then expandActive id name else throw (.notActive name) := by
  unfold expand
  congr 1
  funext name
  congr 1
  funext l
  cases l.isActive id with
  | true => rfl
  | false => rfl

/-- Makes an instance of a name and registers it. -/
def instantiate (name : String) (control : Option Control) : LexiconM (Option MachineId) :=
  create name control >>= fun id => addActive [id] >>= fun _ => pure (some id)

theorem promote_eq (name : String) (definition : MachineId) :
    promote name definition =
      ask (·.graph.get definition) >>= fun m =>
        if (m.parts.drop 1).flatten.isEmpty then pure none
        else ask (·.allNamesActive (m.parts.drop 1).flatten) >>= fun active =>
          if active then instantiate name m.control else pure none := by
  unfold promote
  congr 1
  funext m
  by_cases h : (m.parts.drop 1).flatten.isEmpty = true
  · rw [if_pos h, if_pos h]
  · rw [if_neg h, if_neg h]
    congr 1
    funext active
    cases active <;> rfl

theorem unify_eq (keep merge : MachineId) :
    unify keep merge =
      if keep = merge then pure ()
      else changeGraph (·.fold keep merge) >>= fun _ => ask (·.graph.name merge) >>= fun name =>
        modify (drop name merge) := by
  unfold unify
  split <;> rfl

theorem merge_eq (id : MachineId) :
    merge id =
      get >>= fun l =>
        if l.isActive id then pure id
        else ask (·.graph.name id) >>= fun name => get >>= fun l =>
          match l.firstInstance? name with
          | some existing => unify existing id >>= fun _ => pure existing
          | none => addActive [id] >>= fun _ => pure id :=
  rfl

/-! ## Properties of chains -/

/-- A chain has the property when its steps have it, and so has what only reads. -/
structure Stepwise (P : (α : Type) → LexiconM α → Prop) : Prop where
  pure : ∀ {α : Type} (a : α), P α (pure a)
  bind : ∀ {α β : Type} {x : LexiconM α} {f : α → LexiconM β}, P α x → (∀ a, P β (f a)) → P β (x >>= f)
  ask : ∀ {α : Type} (f : Lexicon → Except Error α), P α (ask f)
  get : P Lexicon get
  throw : ∀ {α : Type} (e : Error), P α (throw e)

namespace Stepwise

variable {P : (α : Type) → LexiconM α → Prop} (hP : Stepwise P)

include hP

theorem chooseTarget (hcopy : ∀ root, P _ (grow (·.deepCopy root))) (id : MachineId) (p : Nat)
    (source : MachineId) (name : String) : P _ (chooseTarget id p source name) := by
  refine hP.bind (hP.ask _) fun found => ?_
  cases found with
  | some child => exact hP.pure child
  | none => exact hcopy source

theorem represent (hcopy : ∀ root, P _ (grow (·.deepCopy root))) (hadd : ∀ ids, P _ (addActive ids))
    (happend : ∀ p c i, P _ (changeGraph (·.append p c i))) (id : MachineId) (p : Nat) (source : MachineId) :
    P _ (represent id p source) := by
  rw [represent_eq]
  refine hP.bind (hP.ask _) fun name => hP.bind hP.get fun l => ?_
  cases l.firstInstance? name with
  | some target => exact hP.bind (happend id target p) fun _ => hP.pure none
  | none =>
    refine hP.bind (hP.chooseTarget hcopy id p source name) fun target => ?_
    exact hP.bind (hadd [target]) fun _ => hP.bind (happend id target p) fun _ => hP.pure _

theorem representAll (hrepresent : ∀ id p source, P _ (Lexicon.represent id p source)) (id : MachineId)
    (links : List (Nat × MachineId)) : P _ (representAll id links) := by
  induction links with
  | nil => exact hP.pure []
  | cons link rest ih =>
    exact hP.bind (hrepresent id link.1 link.2) fun _ => hP.bind ih fun _ => hP.pure _

theorem expand (hrepresent : ∀ id p source, P _ (Lexicon.represent id p source))
    (hset : ∀ id, P _ (setExpanded id)) (id : MachineId) : P _ (expand id) := by
  rw [expand_eq]
  refine hP.bind (hP.ask _) fun name => hP.bind hP.get fun l => ?_
  split
  · refine hP.bind hP.get fun l => ?_
    cases l.static? name with
    | none => exact hP.bind (hset id) fun _ => hP.pure []
    | some definition =>
      refine hP.bind (hP.ask _) fun m => hP.bind (hP.representAll hrepresent id _) fun registered => ?_
      exact hP.bind (hset id) fun _ => hP.pure registered
  · exact hP.throw _

theorem promote (hcreate : ∀ name control, P _ (create name control)) (hadd : ∀ ids, P _ (addActive ids))
    (name : String) (definition : MachineId) : P _ (promote name definition) := by
  rw [promote_eq]
  refine hP.bind (hP.ask _) fun m => ?_
  split
  · exact hP.pure none
  · refine hP.bind (hP.ask _) fun active => ?_
    split
    · exact hP.bind (hcreate name m.control) fun id => hP.bind (hadd [id]) fun _ => hP.pure _
    · exact hP.pure none

theorem promoteAll (hpromote : ∀ name definition, P _ (Lexicon.promote name definition))
    (entries : List (String × MachineId)) : P _ (promoteAll entries) := by
  induction entries with
  | nil => exact hP.pure []
  | cons entry rest ih =>
    exact hP.bind (hpromote entry.1 entry.2) fun _ => hP.bind ih fun _ => hP.pure _

theorem activate (hpromote : ∀ name definition, P _ (Lexicon.promote name definition)) : P _ activate :=
  hP.bind hP.get fun _ => hP.promoteAll hpromote _

theorem merge (hunify : ∀ keep merge, P _ (unify keep merge)) (hadd : ∀ ids, P _ (addActive ids))
    (id : MachineId) : P _ (merge id) := by
  rw [merge_eq]
  refine hP.bind hP.get fun l => ?_
  split
  · exact hP.pure id
  · refine hP.bind (hP.ask _) fun name => hP.bind hP.get fun l => ?_
    cases l.firstInstance? name with
    | some existing => exact hP.bind (hunify existing id) fun _ => hP.pure existing
    | none => exact hP.bind (hadd [id]) fun _ => hP.pure id

theorem mergeActive (hmerge : ∀ id, P _ (Lexicon.merge id)) (ids : List MachineId) :
    P _ (mergeActive ids) := by
  induction ids with
  | nil => exact hP.pure []
  | cons id ids ih => exact hP.bind (hmerge id) fun _ => hP.bind ih fun _ => hP.pure _

end Stepwise

end MeaningGraph.Lexicon
