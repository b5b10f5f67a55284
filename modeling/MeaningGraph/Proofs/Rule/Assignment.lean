/-
# The search for arguments

The machines beside the verb's token are to be given arguments that take them, each another one: an injective map
from the places of the sequence to the arguments.  The search tries the arguments in order, machine by machine, and
takes a choice back when the machines after it can be given none.  It finds a map when there is one, and of all maps
the first in lexicographic order (`first_of_assign`).

`Draft` makes the search with a flag for each argument and one list of the slots given, both changed in place.  A
choice that is taken back has to leave both as they were, or an argument would be lost for the choices after it
(`takeBack_give`); so a search that fails hands its draft back, and one that succeeds has only added slots to it.

    maps                       act
    some                       links the machines, each in the partition of its argument
    none, a live stray         fails with the name of the stray
    none, a stale stray        fails with the stray's handle, as it has no name

The stray is the first machine that no argument takes, or the first of all when each is taken by some argument.
-/
import MeaningGraph.Proofs.Graph.Failures
import MeaningGraph.Proofs.Rule.Linking

namespace MeaningGraph.VerbRule

open Lexicon (changeGraph_error)
open Outcome (error_of_bind)

variable {r : VerbRule} {arguments : List Argument} {g : Graph} {l l' : Lexicon} {id verb : MachineId}
  {ids seq : List MachineId} {slots used : List Nat} {k n : Nat}

/-! ## The first map -/

/-- Slots that can be given as well come after those found, or are these.  The induction is on the sequence, for all
sets of used arguments at once. -/
theorem eq_or_lex_of_assign {slots' : List Nat} (h : r.assign g ids used = some slots)
    (hgives : Gives r.arguments g ids slots') (hfree : ∀ k ∈ slots', k ∉ used) :
    slots' = slots ∨ List.Lex (· < ·) slots slots' := by
  induction ids generalizing used slots slots' with
  | nil =>
    obtain rfl := List.forall₂_nil_left_iff.1 hgives.takes
    cases h
    exact .inl rfl
  | cons id ids ih =>
    obtain ⟨k', more', -, -, rfl⟩ := List.forall₂_cons_left_iff.1 hgives.takes
    obtain ⟨htakes', hgives', hnew'⟩ := gives_cons.1 hgives
    obtain ⟨hk', hfree'⟩ := List.forall_mem_cons.1 hfree
    have hleft : ∀ j ∈ more', j ∉ k' :: used := by
      intro j hj hused
      rcases List.mem_cons.1 hused with rfl | hused
      · exact hnew' hj
      · exact hfree' j hj hused
    obtain ⟨k, more, rfl, -, -, hmore, hnone⟩ := assign_cons h
    rcases Nat.lt_trichotomy k k' with hlt | rfl | hgt
    · exact .inr (.rel hlt)
    · exact (ih hmore hgives' hleft).imp (congrArg (k :: ·)) .cons
    · -- the argument before the one that was found would have led on
      obtain ⟨slots₁, hslots₁⟩ := exists_assign hgives' hleft
      rw [hnone k' hgt htakes' hk'] at hslots₁
      cases hslots₁

theorem slotsOf_injective {m n : Nat} : Function.Injective (slotsOf : (Fin m ↪ Fin n) → List Nat) := by
  intro f f' h
  refine Function.Embedding.ext fun i => Fin.ext ?_
  exact congrFun (List.ofFn_injective h) i

/-- The search finds slots exactly when there is a map. -/
theorem exists_assign_iff :
    (∃ slots, r.assign g ids [] = some slots) ↔ ∃ f, Suits r.arguments g ids f := by
  constructor
  · rintro ⟨slots, h⟩
    obtain ⟨f, hf, -⟩ := gives_iff_suits.1 (gives_of_assign h).1
    exact ⟨f, hf⟩
  · rintro ⟨f, hf⟩
    exact exists_assign (gives_iff_suits.2 ⟨f, hf, rfl⟩) fun _ _ => List.not_mem_nil

theorem assign_eq_none_iff : r.assign g ids [] = none ↔ ¬ ∃ f, Suits r.arguments g ids f := by
  rw [← exists_assign_iff, ← Option.isSome_iff_exists, Option.not_isSome_iff_eq_none]

/-- The slots found are those of the first map in lexicographic order. -/
theorem first_of_assign (h : r.assign g ids [] = some slots) :
    ∃ f, Suits r.arguments g ids f ∧ slotsOf f = slots ∧
      ∀ f', Suits r.arguments g ids f' → f' = f ∨ List.Lex (· < ·) (slotsOf f) (slotsOf f') := by
  obtain ⟨f, hf, rfl⟩ := gives_iff_suits.1 (gives_of_assign h).1
  refine ⟨f, hf, rfl, fun f' hf' => ?_⟩
  have hgives := gives_iff_suits.2 ⟨f', hf', rfl⟩
  exact (eq_or_lex_of_assign h hgives fun _ _ => List.not_mem_nil).imp_left fun heq => slotsOf_injective heq

/-! ## Searching in place -/

/-- What a search holds: a flag for each argument, and the slots given so far. -/
structure Draft where
  used : List Bool
  slots : List Nat

namespace Draft

/-- No argument is used. -/
def blank (n : Nat) : Draft :=
  ⟨List.replicate n false, []⟩

/-- Gives an argument to the next machine. -/
def give (d : Draft) (k : Nat) : Draft :=
  ⟨d.used.set k true, d.slots ++ [k]⟩

/-- Takes the argument back from the last machine that was given one. -/
def takeBack (d : Draft) (k : Nat) : Draft :=
  ⟨d.used.set k false, d.slots.dropLast⟩

/-- What a search that comes to these slots answers and leaves behind. -/
def after (d : Draft) : Option (List Nat) → Bool × Draft
  | none => (false, d)
  | some slots => (true, slots.foldl give d)

/-- The flags are those of the used arguments among `n`. -/
structure Flags (d : Draft) (n : Nat) (used : List Nat) : Prop where
  length : d.used.length = n
  flag_iff : ∀ k, d.used[k]? = some true ↔ k ∈ used

end Draft

/-- Tries the arguments from slot `k` on for a machine, and takes each back that does not lead on. -/
def tryEach (next : Draft → Option (Bool × Draft)) (g : Graph) (id : MachineId) :
    List Argument → Nat → Draft → Option (Bool × Draft)
  | [], _, d => some (false, d)
  | a :: as, k, d =>
    if d.used[k]? = some true || !a.matcher.accepts g id then tryEach next g id as (k + 1) d
    else (next (d.give k)).bind fun (found, d) =>
      if found then some (true, d) else tryEach next g id as (k + 1) (d.takeBack k)

/-- Gives the machines arguments, the next of them the one whose place is the number of slots given.  There is no
outcome when the recursion would go deeper than it may. -/
def search (r : VerbRule) (g : Graph) (args : List MachineId) : Nat → Draft → Option (Bool × Draft)
  | 0, d => if args.length ≤ d.slots.length then some (true, d) else none
  | depth + 1, d =>
    match args[d.slots.length]? with
    | none => some (true, d)
    | some id => tryEach (fun d => r.search g args depth d) g id r.arguments 0 d

namespace Draft

variable {d : Draft}

theorem flags_blank (n : Nat) : (blank n).Flags n [] where
  length := List.length_replicate ..
  flag_iff k := by
    simp [blank, List.getElem?_replicate]

theorem Flags.give (h : d.Flags n used) (hk : k < n) : (d.give k).Flags n (k :: used) where
  length := List.length_set.trans h.length
  flag_iff j := by
    rw [Draft.give, List.getElem?_set, List.mem_cons, ← h.flag_iff]
    by_cases hkj : k = j
    · subst hkj
      simp [h.length, hk]
    · simp [hkj, Ne.symm hkj]

theorem Flags.takeBack_give (h : d.Flags n used) (hk : k < n) (hfree : k ∉ used) :
    (d.give k).takeBack k = d := by
  have hlt : k < d.used.length := h.length.symm ▸ hk
  have hflag : d.used[k] = false := by
    rw [← Bool.not_eq_true]
    intro htrue
    exact hfree ((h.flag_iff k).1 (List.getElem?_eq_some_iff.2 ⟨hlt, htrue⟩))
  obtain ⟨flags, given⟩ := d
  rw [Draft.give, takeBack, List.set_set, List.dropLast_concat, ← hflag, List.set_getElem_self]

end Draft

variable {d : Draft} {next : Draft → Option (Bool × Draft)} {args : List MachineId} {depth : Nat}

/-- Trying the arguments from slot `k` on finds the first that leads on, and where none does nothing has changed:
each that was tried has been taken back.  The induction is on the arguments to be tried. -/
theorem tryEach_eq (h : d.Flags n used) {goal : Nat → Option (List Nat)}
    (hnext : ∀ k < n, k ∉ used → next (d.give k) = some ((d.give k).after (goal k))) {as : List Argument}
    (hk : k + as.length = n) :
    tryEach next g id as k d =
      some (d.after ((as.zipIdx k).findSome? fun (a, k) =>
        if used.contains k || !a.matcher.accepts g id then none else (goal k).map (k :: ·))) := by
  induction as generalizing k with
  | nil => rfl
  | cons a as ih =>
    rw [List.length_cons] at hk
    have hlater := ih (k := k + 1) (by omega)
    have hflag : decide (d.used[k]? = some true) = used.contains k := by
      rw [Bool.eq_iff_iff, decide_eq_true_iff, h.flag_iff, List.contains_iff_mem]
    rw [tryEach, List.zipIdx_cons, List.findSome?_cons, hflag]
    dsimp only
    by_cases hskip : (used.contains k || !a.matcher.accepts g id) = true
    · rw [if_pos hskip, if_pos hskip]
      exact hlater
    · rw [if_neg hskip, if_neg hskip]
      have hfree : k ∉ used := by
        intro hmem
        exact hskip (by rw [List.contains_iff_mem.2 hmem, Bool.true_or])
      have hlt : k < n := by omega
      rw [hnext k hlt hfree]
      cases hgoal : goal k with
      | none =>
        change tryEach next g id as (k + 1) ((d.give k).takeBack k) = _
        rw [h.takeBack_give hlt hfree]
        exact hlater
      | some slots => rfl

theorem search_of_length (r : VerbRule) (g : Graph) (h : args.length ≤ d.slots.length) (depth : Nat) :
    r.search g args depth d = some (true, d) := by
  cases depth with
  | zero => exact if_pos h
  | succ depth => rw [search, List.getElem?_eq_none h]

/-- The search in place answers what the search answers that hands the used arguments along, and goes no deeper
than there are machines left. -/
theorem search_eq (h : d.Flags r.arguments.length used) (hids : args.drop d.slots.length = ids)
    (hdepth : ids.length ≤ depth) : r.search g args depth d = some (d.after (r.assign g ids used)) := by
  induction ids generalizing d used depth with
  | nil => exact search_of_length r g (List.drop_eq_nil_iff.1 hids) depth
  | cons id ids ih =>
    obtain ⟨depth, rfl⟩ := Nat.exists_eq_add_of_le' (Nat.le_of_add_left_le hdepth)
    have hnext : args[d.slots.length]? = some id := by
      rw [← List.head?_drop, hids, List.head?_cons]
    have hrest : ∀ k, args.drop (d.give k).slots.length = ids := by
      intro k
      rw [Draft.give, List.length_append, List.length_singleton, ← List.drop_drop, hids]
      rfl
    rw [search, hnext, assign]
    exact tryEach_eq h (fun k hk _ => ih (h.give hk) (hrest k) (Nat.le_of_succ_le_succ hdepth)) (Nat.zero_add _)

/-! ## The machine that is reported -/

/-- The machine is the first that no argument takes; or each is taken by some argument, and it is the first of
all. -/
def IsStray (arguments : List Argument) (g : Graph) (ids : List MachineId) (id : MachineId) : Prop :=
  (∃ before after, ids = before ++ id :: after ∧ (∀ k, ¬ Takes arguments g id k) ∧
    ∀ x ∈ before, ∃ k, Takes arguments g x k) ∨
  (∀ x ∈ ids, ∃ k, Takes arguments g x k) ∧ ids.head? = some id

theorem any_accepts_iff :
    arguments.any (·.matcher.accepts g id) = true ↔ ∃ k, Takes arguments g id k := by
  rw [List.any_eq_true]
  constructor
  · rintro ⟨a, ha, haccepts⟩
    obtain ⟨k, hk⟩ := List.mem_iff_getElem?.1 ha
    exact ⟨k, a, hk, haccepts⟩
  · rintro ⟨k, a, ha, haccepts⟩
    exact ⟨a, List.mem_of_getElem? ha, haccepts⟩

theorem stray_eq_some_iff : r.stray g ids = some id ↔ IsStray r.arguments g ids id := by
  have huntaken : ∀ x, (!r.arguments.any (·.matcher.accepts g x)) = true ↔ ∀ k, ¬ Takes r.arguments g x k := by
    intro x
    rw [Bool.not_eq_true', ← Bool.not_eq_true, any_accepts_iff, not_exists]
  rw [stray, Option.orElse_eq_orElse, Option.orElse_eq_or, Option.or_eq_some_iff, List.find?_eq_some_iff_append,
    List.find?_eq_none]
  refine or_congr ?_ (and_congr_left' ?_)
  · constructor
    · rintro ⟨hid, before, after, heq, hbefore⟩
      refine ⟨before, after, heq, (huntaken id).1 hid, fun x hx => ?_⟩
      exact any_accepts_iff.1 (by simpa using hbefore x hx)
    · rintro ⟨before, after, heq, hid, hbefore⟩
      refine ⟨(huntaken id).2 hid, before, after, heq, fun x hx => ?_⟩
      rw [any_accepts_iff.2 (hbefore x hx)]
      rfl
  · refine forall₂_congr fun x _ => ?_
    rw [huntaken x, not_forall_not]

theorem exists_stray (h : ¬ ∃ f, Suits r.arguments g ids f) : ∃ id, IsStray r.arguments g ids id := by
  cases ids with
  | nil => exact absurd (exists_assign_iff.1 ⟨[], rfl⟩) h
  | cons id ids =>
    obtain ⟨x, hx⟩ : ∃ x, r.stray g (id :: ids) = some x := by
      rw [stray, Option.orElse_eq_orElse, Option.orElse_eq_or, ← Option.isSome_iff_exists, Option.isSome_or,
        List.head?_cons, Option.isSome_some, Bool.or_true]
    exact ⟨x, stray_eq_some_iff.1 hx⟩

theorem IsStray.mem (h : IsStray arguments g ids id) : id ∈ ids := by
  rcases h with ⟨before, after, rfl, -⟩ | ⟨-, hhead⟩
  · exact List.mem_append_right _ List.mem_cons_self
  · exact List.mem_of_head? hhead

/-! ## Acts that come to the search -/

/-- The act on the sequence comes to the search: the last check lets it pass, the names that are looked at for the
token are there, and some machine stands for the verb. -/
structure Searches (r : VerbRule) (l : Lexicon) (seq : List MachineId) : Prop where
  lastCheck : r.lastCheck l.graph seq = true
  split : ∃ found, r.split l.graph seq = .ok found
  target : ∃ verb, r.target? l seq = some verb

/-- The error that reports a stray: there is no argument for it, or it has no name by which to say so. -/
def strayError (r : VerbRule) (g : Graph) (id : MachineId) : Error :=
  match g.name? id with
  | some name => .unknownDeepCase r.verb name
  | none => .stale id

theorem strayError_of_name {name : String} (h : g.name? id = some name) :
    r.strayError g id = .unknownDeepCase r.verb name := by
  rw [strayError, h]

theorem strayError_of_not_contains (h : g.contains id = false) : r.strayError g id = .stale id := by
  rw [strayError, Graph.name?, Graph.find?_eq_none_of_not_contains h]
  rfl

theorem failStray_eq (r : VerbRule) (id : MachineId) (l : Lexicon) :
    r.failStray (some id) l = .error (r.strayError l.graph id) l := by
  cases hid : l.graph.contains id with
  | true =>
    obtain ⟨m, hm⟩ := Graph.contains_iff.1 hid
    rw [strayError_of_name (Graph.name?_of_find? hm)]
    exact Lexicon.ask_bind (Graph.name_of_find? hm)
  | false =>
    rw [strayError_of_not_contains hid]
    exact Lexicon.ask_bind_error (Graph.name_of_not_contains hid)

theorem link_fails {links : List (MachineId × Nat)} {e : Error}
    (h : r.link verb links l = .error e l') : ∃ id, e = .stale id := by
  induction links generalizing l with
  | nil => cases h
  | cons link links ih =>
    obtain ⟨id, k⟩ := link
    unfold VerbRule.link at h
    cases ha : r.arguments[k]? with
    | none =>
      simp only [ha] at h
      exact ih h
    | some a =>
      simp only [ha] at h
      rcases error_of_bind h with hone | ⟨_, l₁, -, hrest⟩
      · obtain ⟨happend, -⟩ := changeGraph_error hone
        rcases Graph.append_eq_error_iff.1 happend with ⟨-, rfl⟩ | ⟨-, -, rfl⟩
        · exact ⟨_, rfl⟩
        · exact ⟨_, rfl⟩
      · exact ih hrest

theorem linkAll_fails {control : Option Control} {e : Error}
    (h : r.linkAll verb control ids slots l = .error e l') : ∃ id, e = .stale id := by
  rcases error_of_bind h with hset | ⟨_, l₁, -, h⟩
  · obtain ⟨hset, -⟩ := changeGraph_error hset
    obtain ⟨-, rfl⟩ := Graph.setControl_eq_error_iff.1 hset
    exact ⟨_, rfl⟩
  · rcases error_of_bind h with hlink | ⟨_, l₂, -, h⟩
    · exact link_fails hlink
    · cases h

theorem Searches.act_eq (h : r.Searches l seq) :
    ∃ verb, r.act seq l =
      (match r.assign l.graph (r.others l.graph seq) [] with
        | none => r.failStray (r.stray l.graph (r.others l.graph seq))
        | some slots =>
          r.linkAll verb (r.controlFor l.graph (seq.find? (r.isVerb l.graph))) (r.others l.graph seq) slots :
        LexiconM (Option (List MachineId))) l := by
  obtain ⟨⟨token, args⟩, hsplit⟩ := h.split
  obtain ⟨verb, hverb⟩ := h.target
  obtain ⟨rfl, rfl, -⟩ := split_ok hsplit
  have hact := act_of_split h.lastCheck hsplit
  rw [hverb] at hact
  exact ⟨verb, hact⟩

theorem Searches.act_of_none (h : r.Searches l seq)
    (hnone : ¬ ∃ f, Suits r.arguments l.graph (r.others l.graph seq) f)
    (hid : IsStray r.arguments l.graph (r.others l.graph seq) id) :
    r.act seq l = .error (r.strayError l.graph id) l := by
  obtain ⟨verb, hact⟩ := h.act_eq
  rw [assign_eq_none_iff.2 hnone, stray_eq_some_iff.2 hid] at hact
  exact hact.trans (r.failStray_eq id l)

theorem Searches.not_exists_of_act (h : r.Searches l seq) {name argument : String}
    (hact : r.act seq l = .error (.unknownDeepCase name argument) l') :
    ¬ ∃ f, Suits r.arguments l.graph (r.others l.graph seq) f := by
  intro hsome
  obtain ⟨slots, hslots⟩ := exists_assign_iff.2 hsome
  obtain ⟨verb, hlinks⟩ := h.act_eq
  rw [hslots, hact] at hlinks
  obtain ⟨id, heq⟩ := linkAll_fails hlinks.symm
  cases heq

theorem Searches.act_eq_unknown_iff (h : r.Searches l seq) {name argument : String} :
    r.act seq l = .error (.unknownDeepCase name argument) l' ↔
      (¬ ∃ f, Suits r.arguments l.graph (r.others l.graph seq) f) ∧ name = r.verb ∧ l' = l ∧
        ∃ id, IsStray r.arguments l.graph (r.others l.graph seq) id ∧ l.graph.name? id = some argument := by
  constructor
  · intro hact
    have hnone := h.not_exists_of_act hact
    obtain ⟨id, hid⟩ := exists_stray hnone
    have hstray := h.act_of_none hnone hid
    rw [hact] at hstray
    cases hlive : l.graph.contains id with
    | false =>
      rw [strayError_of_not_contains hlive] at hstray
      cases hstray
    | true =>
      obtain ⟨m, hm⟩ := Graph.contains_iff.1 hlive
      have hname := Graph.name?_of_find? hm
      rw [strayError_of_name hname] at hstray
      cases hstray
      exact ⟨hnone, rfl, rfl, id, hid, hname⟩
  · rintro ⟨hnone, rfl, rfl, id, hid, hname⟩
    rw [h.act_of_none hnone hid, strayError_of_name hname]

/-- The search, for any machines however many, comes to an end with slots exactly when there is an injective map from
their places to the arguments by which each machine is accepted by its argument's matcher, and then the slots are
those of the first such map in lexicographic order.  Made in place with flags and one list it comes to the same, and
to the flags and the list it began with when it fails.

An act that comes to the search reports an unknown deep case exactly when there is no such map for the machines
beside the token and the stray is live, by whose name it does so; the stray is the first machine that no argument
takes, else the first.  A stray that is stale is reported as stale.  So with live machines only the act reports an
unknown deep case exactly when there is no map. -/
theorem assigns_first (r : VerbRule) :
    (∀ g args, ((∃ slots, r.assign g args [] = some slots) ↔ ∃ f, Suits r.arguments g args f) ∧
      (∀ slots, r.assign g args [] = some slots →
        ∃ f, Suits r.arguments g args f ∧ slotsOf f = slots ∧
          ∀ f', Suits r.arguments g args f' → f' = f ∨ List.Lex (· < ·) (slotsOf f) (slotsOf f')) ∧
      ∀ depth, args.length ≤ depth → r.search g args depth (.blank r.arguments.length) =
        some ((Draft.blank r.arguments.length).after (r.assign g args []))) ∧
    ∀ l seq, r.Searches l seq →
      (∀ verb name l', r.act seq l = .error (.unknownDeepCase verb name) l' ↔
        (¬ ∃ f, Suits r.arguments l.graph (r.others l.graph seq) f) ∧ verb = r.verb ∧ l' = l ∧
          ∃ id, IsStray r.arguments l.graph (r.others l.graph seq) id ∧ l.graph.name? id = some name) ∧
      ((¬ ∃ f, Suits r.arguments l.graph (r.others l.graph seq) f) →
        ∃ id, IsStray r.arguments l.graph (r.others l.graph seq) id ∧
          (l.graph.contains id = false → r.act seq l = .error (.stale id) l)) ∧
      ((∀ id ∈ seq, l.graph.contains id = true) →
        ((∃ verb name l', r.act seq l = .error (.unknownDeepCase verb name) l') ↔
          ¬ ∃ f, Suits r.arguments l.graph (r.others l.graph seq) f)) := by
  refine ⟨fun g args => ⟨exists_assign_iff, fun slots => first_of_assign,
    fun depth => search_eq (Draft.flags_blank _) rfl⟩, ?_⟩
  intro l seq hsearches
  refine ⟨fun verb name l' => hsearches.act_eq_unknown_iff, ?_, ?_⟩
  · intro hnone
    obtain ⟨id, hid⟩ := exists_stray hnone
    refine ⟨id, hid, fun hstale => ?_⟩
    rw [hsearches.act_of_none hnone hid, strayError_of_not_contains hstale]
  · intro hlive
    constructor
    · rintro ⟨verb, name, l', hact⟩
      exact hsearches.not_exists_of_act hact
    · intro hnone
      obtain ⟨id, hid⟩ := exists_stray hnone
      obtain ⟨m, hm⟩ := Graph.contains_iff.1 (hlive id (List.mem_of_mem_eraseP hid.mem))
      exact ⟨r.verb, m.name, l, hsearches.act_eq_unknown_iff.2 ⟨hnone, rfl, rfl, id, hid, Graph.name?_of_find? hm⟩⟩

/-- A rule for the verb with an argument for anyone and then one for the town. -/
def choosing : VerbRule :=
  let arguments : List Argument := [⟨"FROM", 1, .negate (.exact "nobody")⟩, ⟨"TO", 2, .exact "town"⟩]
  ⟨"go", some (.pos "VERB"), arguments, hypercube "go" arguments⟩

theorem searches_errand_home : going.Searches errand [⟨3, 1⟩, ⟨4, 1⟩] where
  lastCheck := by decide +kernel
  split := ⟨_, rfl⟩
  target := ⟨⟨3, 1⟩, by decide +kernel⟩

theorem searches_errand_released : going.Searches errand [⟨3, 1⟩, ⟨0, 1⟩] where
  lastCheck := by decide +kernel
  split := ⟨_, rfl⟩
  target := ⟨⟨3, 1⟩, by decide +kernel⟩

/-- The town comes before the home and is given the argument for anyone first; that is taken back, as the other one is
not for the home.  A home without a case is an unknown deep case, and a machine that was released is stale. -/
theorem assigns_first_errand :
    choosing.assign errand.graph [⟨5, 1⟩, ⟨4, 1⟩] [] = some [1, 0] ∧
    (∃ f, Suits choosing.arguments errand.graph [⟨5, 1⟩, ⟨4, 1⟩] f ∧ slotsOf f = [1, 0]) ∧
    choosing.search errand.graph [⟨5, 1⟩, ⟨4, 1⟩] 2 (.blank 2) = some (true, ⟨[true, true], [1, 0]⟩) ∧
    going.Searches errand [⟨3, 1⟩, ⟨4, 1⟩] ∧
    going.act [⟨3, 1⟩, ⟨4, 1⟩] errand = .error (.unknownDeepCase "go" "home") errand ∧
    (∀ id ∈ [⟨3, 1⟩, ⟨4, 1⟩], errand.graph.contains id = true) ∧
    (¬ ∃ f, Suits going.arguments errand.graph (going.others errand.graph [⟨3, 1⟩, ⟨4, 1⟩]) f) ∧
    going.Searches errand [⟨3, 1⟩, ⟨0, 1⟩] ∧ errand.graph.contains ⟨0, 1⟩ = false ∧
    going.act [⟨3, 1⟩, ⟨0, 1⟩] errand = .error (.stale ⟨0, 1⟩) errand := by
  have hassign : choosing.assign errand.graph [⟨5, 1⟩, ⟨4, 1⟩] [] = some [1, 0] := by decide +kernel
  have hlive : ∀ id ∈ [⟨3, 1⟩, ⟨4, 1⟩], errand.graph.contains id = true := by decide
  have hhome : going.assign errand.graph (going.others errand.graph [⟨3, 1⟩, ⟨4, 1⟩]) [] = none := by
    decide +kernel
  have hstrayHome : going.stray errand.graph (going.others errand.graph [⟨3, 1⟩, ⟨4, 1⟩]) = some ⟨4, 1⟩ := by
    decide +kernel
  have hreleased : going.assign errand.graph (going.others errand.graph [⟨3, 1⟩, ⟨0, 1⟩]) [] = none := by
    decide +kernel
  have hstray : going.stray errand.graph (going.others errand.graph [⟨3, 1⟩, ⟨0, 1⟩]) = some ⟨0, 1⟩ := by
    decide +kernel
  obtain ⟨-, hfirst, hsearch⟩ := (assigns_first choosing).1 errand.graph [⟨5, 1⟩, ⟨4, 1⟩]
  obtain ⟨f, hf, hslots, -⟩ := hfirst _ hassign
  have hdraft := hsearch 2 (Nat.le_refl 2)
  rw [hassign] at hdraft
  obtain ⟨hreport, -, hall⟩ := (assigns_first going).2 errand _ searches_errand_home
  have hunknown : going.act [⟨3, 1⟩, ⟨4, 1⟩] errand = .error (.unknownDeepCase "go" "home") errand :=
    (hreport _ _ _).2 ⟨assign_eq_none_iff.1 hhome, rfl, rfl, ⟨4, 1⟩, stray_eq_some_iff.1 hstrayHome, rfl⟩
  obtain ⟨-, hstale, -⟩ := (assigns_first going).2 errand _ searches_errand_released
  obtain ⟨id, hid, hact⟩ := hstale (assign_eq_none_iff.1 hreleased)
  obtain rfl : id = ⟨0, 1⟩ := Option.some.inj ((stray_eq_some_iff.2 hid).symm.trans hstray)
  exact ⟨hassign, ⟨f, hf, hslots⟩, hdraft, searches_errand_home, hunknown, hlive, (hall hlive).1 ⟨_, _, _, hunknown⟩,
    searches_errand_released, rfl, hact rfl⟩

/-- Nothing can be given to the released machine behind the token, and it is not reported as an unknown deep
case. -/
theorem unreported_errand :
    ofLexicon? errand "go" .default = .ok (some going) ∧ errand.Reachable ∧
    going.Searches errand [⟨3, 1⟩, ⟨0, 1⟩] ∧
    (¬ ∃ f, Suits going.arguments errand.graph (going.others errand.graph [⟨3, 1⟩, ⟨0, 1⟩]) f) ∧
    going.act [⟨3, 1⟩, ⟨0, 1⟩] errand = .error (.stale ⟨0, 1⟩) errand ∧
    ¬ ∃ verb name l', going.act [⟨3, 1⟩, ⟨0, 1⟩] errand = .error (.unknownDeepCase verb name) l' := by
  have hnone : going.assign errand.graph (going.others errand.graph [⟨3, 1⟩, ⟨0, 1⟩]) [] = none := by
    decide +kernel
  have hstray : going.stray errand.graph (going.others errand.graph [⟨3, 1⟩, ⟨0, 1⟩]) = some ⟨0, 1⟩ := by
    decide +kernel
  have hmap := assign_eq_none_iff.1 hnone
  have hact := searches_errand_released.act_of_none hmap (stray_eq_some_iff.1 hstray)
  rw [strayError_of_not_contains rfl] at hact
  refine ⟨rfl, reachable_errand, searches_errand_released, hmap, hact, ?_⟩
  rintro ⟨verb, name, l', hunknown⟩
  rw [hact] at hunknown
  cases hunknown

end MeaningGraph.VerbRule
