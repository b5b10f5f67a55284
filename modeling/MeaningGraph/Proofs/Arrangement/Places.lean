/-
# The places picked

An arrangement is told by the places of its items and not by the items, which may be equal.  The places of a list
are items without repetitions in increasing order, and its arrangements are those of the places, looked up:

    arrangements as n  =  (arrangements [0, 1, …] n) looked up in as

Of the places there is every sequence of `n` different ones, once, in lexicographic order; so there are
`m! / (m - n)!` arrangements of `m` items.

`Walk` makes them with a flag for each item, set while the item is picked, and one sequence that grows and shrinks.
The items left for the next pick are those whose flag is not set (`unset`).  The walk comes to the arrangements of
these because whatever it does below a pick it undoes: `extend_eq` says that nothing has changed when it comes back,
but that the sequences it has found are written down.
-/
import Mathlib.Data.Fintype.EquivFin
import Mathlib.Data.List.FinRange
import Mathlib.Data.Nat.Factorial.Basic
import MeaningGraph.Proofs.Arrangement

namespace MeaningGraph

variable {α β : Type} {a : α} {as rest seq : List α} {n : Nat}

/-! ## How many there are -/

theorem length_picks (as : List α) : (picks as).length = as.length := by
  have h := congrArg List.length (map_fst_picks as)
  rwa [List.length_map] at h

theorem length_of_mem_picks (h : (a, rest) ∈ picks as) : rest.length = as.length - 1 := by
  have hperm := (perm_of_mem_picks h).length_eq
  rw [List.length_cons] at hperm
  omega

/-- Each of the `m` picks leaves `m - 1` items for the others. -/
theorem length_arrangements (as : List α) (n : Nat) :
    (arrangements as n).length = as.length.descFactorial n := by
  induction n generalizing as with
  | zero => rfl
  | succ n ih =>
    have heach : ∀ pick ∈ picks as,
        ((arrangements pick.2 n).map (pick.1 :: ·)).length = (as.length - 1).descFactorial n := by
      intro pick hpick
      rw [List.length_map, ih, length_of_mem_picks hpick]
    rw [arrangements, List.length_flatMap, List.map_congr_left heach, List.map_const', List.sum_replicate_nat,
      length_picks]
    cases as with
    | nil => rw [List.length_nil, Nat.zero_mul, Nat.zero_descFactorial_succ]
    | cons a as => exact (Nat.succ_descFactorial_succ as.length n).symm

theorem arrangements_eq_nil (h : as.length < n) : arrangements as n = [] :=
  List.eq_nil_of_length_eq_zero ((length_arrangements as n).trans (Nat.descFactorial_eq_zero_iff_lt.2 h))

/-! ## Items that are looked up -/

theorem picks_map (f : α → β) (as : List α) :
    picks (as.map f) = (picks as).map fun (a, rest) => (f a, rest.map f) := by
  induction as with
  | nil => rfl
  | cons a as ih => simp [picks, ih, Function.comp_def]

theorem arrangements_map (f : α → β) (as : List α) (n : Nat) :
    arrangements (as.map f) n = (arrangements as n).map (List.map f) := by
  induction n generalizing as with
  | zero => rfl
  | succ n ih =>
    simp only [arrangements, picks_map, List.flatMap_map, List.map_flatMap, List.map_map, ih]
    rfl

theorem arrangements_eq_map_get (as : List α) (n : Nat) :
    arrangements as n = (arrangements (List.finRange as.length) n).map (List.map as.get) := by
  rw [← arrangements_map, List.map_get_finRange]

theorem mem_arrangements_of_all (hall : ∀ a, a ∈ as) (hnodup : as.Nodup) :
    seq ∈ arrangements as n ↔ seq.length = n ∧ seq.Nodup := by
  rw [mem_arrangements_iff]
  refine and_congr_right fun _ => ⟨fun hsub => ?_, fun hseq => hseq.subperm fun a _ => hall a⟩
  obtain ⟨seq', hperm, hsub⟩ := hsub
  exact hperm.nodup_iff.1 (hnodup.sublist hsub)

/-! ## Walking in place -/

/-- What a walk holds: a flag for each item, the items that are picked, and the sequences found so far. -/
structure Walk (α : Type) where
  used : List Bool
  current : List α
  found : List (List α)

namespace Walk

/-- Nothing is picked and nothing found. -/
def start (items : List α) : Walk α :=
  ⟨List.replicate items.length false, [], []⟩

def pick (i : Nat) (a : α) (w : Walk α) : Walk α :=
  { w with used := w.used.set i true, current := w.current ++ [a] }

/-- Takes the last pick back, which was at that place. -/
def putBack (i : Nat) (w : Walk α) : Walk α :=
  { w with used := w.used.set i false, current := w.current.dropLast }

def write (seqs : List (List α)) (w : Walk α) : Walk α :=
  { w with found := w.found ++ seqs }

/-- Picks each of the items that stand from place `i` on and are not used, goes on, and puts it back. -/
def each (next : Walk α → Option (Walk α)) : List α → Nat → Walk α → Option (Walk α)
  | [], _, w => some w
  | a :: as, i, w =>
    if w.used[i]? = some true then each next as (i + 1) w
    else (next (w.pick i a)).bind fun w => each next as (i + 1) (w.putBack i)

/-- Extends the current sequence to `n` items in all ways, and writes each down.  There is no outcome when the
recursion would go deeper than it may. -/
def extend (items : List α) (n : Nat) : Nat → Walk α → Option (Walk α)
  | 0, w => if w.current.length = n then some (w.write [w.current]) else none
  | depth + 1, w =>
    if w.current.length = n then some (w.write [w.current])
    else each (fun w => extend items n depth w) items 0 w

/-- The walk for the sequences of `n` items; when there are not so many it does not set out. -/
def run (items : List α) (n depth : Nat) : Option (Walk α) :=
  if items.length < n then some (start items) else extend items n depth (start items)

/-- The items whose flag is not set. -/
def unset (items : List α) (used : List Bool) : List α :=
  ((items.zip used).filter fun pair => !pair.2).map (·.1)

variable {before after : List α} {ubefore uafter : List Bool} {w : Walk α}
  {next : Walk α → Option (Walk α)} {k depth : Nat}

theorem unset_cons (a : α) (as : List α) (b : Bool) (used : List Bool) :
    unset (a :: as) (b :: used) = if b then unset as used else a :: unset as used := by
  cases b <;> rfl

theorem unset_append (h : before.length = ubefore.length) (after : List α) (uafter : List Bool) :
    unset (before ++ after) (ubefore ++ uafter) = unset before ubefore ++ unset after uafter := by
  rw [unset, List.zip_append h, List.filter_append, List.map_append]
  rfl

theorem unset_concat (h : before.length = ubefore.length) (a : α) (b : Bool) :
    unset (before ++ [a]) (ubefore ++ [b]) =
      if b then unset before ubefore else unset before ubefore ++ [a] := by
  rw [unset_append h]
  cases b with
  | true => exact List.append_nil _
  | false => rfl

theorem unset_replicate (items : List α) : unset items (List.replicate items.length false) = items := by
  induction items with
  | nil => rfl
  | cons a as ih =>
    rw [List.length_cons, List.replicate_succ, unset_cons, ih]
    rfl

theorem write_nil (w : Walk α) : w.write [] = w := by
  rw [write, List.append_nil]

theorem write_write (w : Walk α) (seqs seqs' : List (List α)) :
    (w.write seqs).write seqs' = w.write (seqs ++ seqs') := by
  rw [write, write, write, List.append_assoc]

/-- The ways to go on from the current sequence with one of the items `todo`, and then with `n` of the others and of
the items `kept`. -/
def goingOn (n : Nat) (current kept todo : List α) : List (List α) :=
  (picks todo).flatMap fun (a, rest) => (arrangements (kept ++ rest) n).map fun seq => current ++ a :: seq

theorem goingOn_cons (n : Nat) (current kept : List α) (a : α) (todo : List α) :
    goingOn n current kept (a :: todo) =
      (arrangements (kept ++ todo) n).map (fun seq => current ++ a :: seq) ++
        goingOn n current (kept ++ [a]) todo := by
  simp [goingOn, picks, List.flatMap_map]

theorem goingOn_nil (n : Nat) (current todo : List α) :
    goingOn n current [] todo = (arrangements todo (n + 1)).map (current ++ ·) := by
  simp only [goingOn, arrangements, List.map_flatMap, List.map_map]
  rfl

/-- With `k` items to go it is written down what can be made of the items that are not used, and nothing else is
changed. -/
def Extends (items : List α) (n k : Nat) (next : Walk α → Option (Walk α)) : Prop :=
  ∀ w : Walk α, w.used.length = items.length → w.current.length + k = n →
    next w = some (w.write ((arrangements (unset items w.used) k).map (w.current ++ ·)))

/-- A pick that is put back leaves no more than what was found below it. -/
theorem putBack_next (hnext : Extends (before ++ a :: after) n k next)
    (hused : w.used = ubefore ++ false :: uafter) (hbefore : before.length = ubefore.length)
    (hafter : after.length = uafter.length) (hcurrent : w.current.length + (k + 1) = n) :
    (next (w.pick before.length a)).map (putBack before.length) =
      some (w.write ((arrangements (unset before ubefore ++ unset after uafter) k).map
        fun seq => w.current ++ a :: seq)) := by
  have hset : ∀ b, (ubefore ++ false :: uafter).set before.length b = ubefore ++ b :: uafter := by
    intro b
    rw [hbefore, List.set_append_right _ _ (Nat.le_refl _), Nat.sub_self, List.set_cons_zero]
  have hpicked : (w.pick before.length a).used = ubefore ++ true :: uafter := by
    rw [pick, hused, hset]
  have hunset : unset (before ++ a :: after) (ubefore ++ true :: uafter) =
      unset before ubefore ++ unset after uafter := by
    rw [unset_append hbefore, unset_cons, if_pos rfl]
  have hlength : (w.pick before.length a).used.length = (before ++ a :: after).length := by
    rw [hpicked]
    simp [hbefore, hafter]
  have hlonger : (w.pick before.length a).current.length + k = n := by
    rw [pick, List.length_append, List.length_singleton]
    omega
  rw [hnext _ hlength hlonger, hpicked, hunset]
  obtain ⟨used, current, found⟩ := w
  dsimp only at hused
  subst hused
  simp [pick, putBack, write, hbefore]

/-- The induction is on the items that are still to be tried.  The items before them have been put back and are
left for every pick. -/
theorem each_eq (hnext : Extends (before ++ after) n k next) (hused : w.used = ubefore ++ uafter)
    (hbefore : before.length = ubefore.length) (hafter : after.length = uafter.length)
    (hcurrent : w.current.length + (k + 1) = n) :
    each next after before.length w =
      some (w.write (goingOn k w.current (unset before ubefore) (unset after uafter))) := by
  induction after generalizing before ubefore uafter w with
  | nil => exact congrArg some (write_nil w).symm
  | cons a as ih =>
    obtain ⟨b, uas, rfl⟩ := List.exists_cons_of_length_eq_add_one hafter.symm
    have has : as.length = uas.length := Nat.succ.inj hafter
    have hflag : w.used[before.length]? = some b := by
      rw [hused, hbefore, List.getElem?_append_right (Nat.le_refl _), Nat.sub_self, List.getElem?_cons_zero]
    have hrest : ∀ seqs, each next as (before.length + 1) (w.write seqs) = some ((w.write seqs).write
        (goingOn k w.current (unset (before ++ [a]) (ubefore ++ [b])) (unset as uas))) := by
      intro seqs
      have hlength : before.length + 1 = (before ++ [a]).length := by simp
      rw [hlength]
      rw [List.append_cons] at hnext hused
      exact ih hnext hused (by simp [hbefore]) has hcurrent
    rw [unset_concat hbefore] at hrest
    rw [each, hflag, unset_cons]
    cases b with
    | true =>
      have hkept := hrest []
      rwa [write_nil] at hkept
    | false =>
      have hback := putBack_next hnext hused hbefore has hcurrent
      obtain ⟨w', hw', hback⟩ := Option.map_eq_some_iff.1 hback
      rw [if_neg (by decide), if_neg (by decide), hw', Option.bind_some, hback, hrest, write_write, goingOn_cons]
      rfl

theorem extend_of_length (items : List α) (hcurrent : w.current.length = n) (depth : Nat) :
    extend items n depth w = some (w.write [w.current]) := by
  cases depth <;> exact if_pos hcurrent

/-- The walk finds the arrangements of the items that are not used, behind what it has picked already, and leaves
the flags and the picks as they were. -/
theorem extend_eq (items : List α) (hdepth : k ≤ depth) : Extends items n k (extend items n depth) := by
  induction k generalizing depth with
  | zero =>
    intro w _ hcurrent
    rw [extend_of_length items hcurrent]
    simp [arrangements]
  | succ k ih =>
    obtain ⟨depth, rfl⟩ := Nat.exists_eq_add_of_le' (Nat.le_of_add_left_le hdepth)
    intro w hlength hcurrent
    have heach : each (extend items n depth) items ([] : List α).length w =
        some (w.write (goingOn k w.current (unset [] []) (unset items w.used))) :=
      each_eq (ih (Nat.le_of_succ_le_succ hdepth)) rfl rfl hlength.symm hcurrent
    rw [extend, if_neg (by omega)]
    exact heach.trans (congrArg (fun seqs => some (w.write seqs)) (goingOn_nil k w.current _))

/-- The walk ends as it began, with all arrangements found; it goes no deeper than the sequences are long. -/
theorem run_eq (items : List α) (hdepth : n ≤ depth) :
    run items n depth = some { start items with found := arrangements items n } := by
  unfold run
  split
  · rename_i hshort
    rw [arrangements_eq_nil hshort]
    rfl
  · rw [extend_eq items hdepth (start items) (List.length_replicate ..) (Nat.zero_add n)]
    simp [start, write, unset_replicate]

end Walk

/-! ## Each selection once -/

/-- The arrangements of a list, whose items may be equal, are the selections for the sequences of `n` different
places, each once, in strictly increasing lexicographic order of the places.  So there are `m! / (m - n)!` of them
for `m` items, of which the empty one is the only one of no items, and none is longer than the list; those of
different items have no repetitions, and no two are equal.  The walk that picks and puts back in place finds
these, in this order, with no flag set and nothing picked when it ends. -/
theorem arrangements_by_places (as : List α) (n : Nat) :
    (∃ places : List (List (Fin as.length)), places.Pairwise (List.Lex (· < ·)) ∧ places.Nodup ∧
      (∀ p, p ∈ places ↔ p.length = n ∧ p.Nodup) ∧ arrangements as n = places.map (List.map as.get)) ∧
    (n ≤ as.length → (arrangements as n).length = as.length.factorial / (as.length - n).factorial) ∧
    arrangements as 0 = [[]] ∧
    (as.length < n → arrangements as n = []) ∧
    (as.Nodup → (arrangements as n).Nodup ∧ ∀ seq ∈ arrangements as n, seq.Nodup) ∧
    ∀ depth, n ≤ depth → Walk.run as n depth = some { Walk.start as with found := arrangements as n } := by
  have hincreasing := pairwise_arrangements (List.pairwise_lt_finRange as.length) n
  have hirrefl : ∀ {p q : List (Fin as.length)}, List.Lex (· < ·) p q → p ≠ q := by
    rintro p _ hlex rfl
    exact lt_irrefl p hlex
  have honce : (arrangements (List.finRange as.length) n).Nodup := hincreasing.imp hirrefl
  have hplaces : ∀ p, p ∈ arrangements (List.finRange as.length) n ↔ p.length = n ∧ p.Nodup := fun p =>
    mem_arrangements_of_all List.mem_finRange (List.nodup_finRange _)
  have hlook := arrangements_eq_map_get as n
  refine ⟨⟨_, hincreasing, honce, hplaces, hlook⟩, ?_, rfl, arrangements_eq_nil, ?_, fun _ => Walk.run_eq as⟩
  · intro hle
    rw [length_arrangements, Nat.descFactorial_eq_div hle]
  · intro hnodup
    have hget := List.nodup_iff_injective_get.1 hnodup
    rw [hlook]
    refine ⟨List.Nodup.map (List.map_injective_iff.2 hget) honce, ?_⟩
    intro seq hseq
    obtain ⟨p, hp, rfl⟩ := List.mem_map.1 hseq
    exact List.Nodup.map hget ((hplaces p).1 hp).2

/-- Of a list that names the coach twice there are six pairs, and no four can be picked; of three different wagons
all pairs are different, and none repeats a wagon. -/
theorem arrangements_by_places_wagons :
    2 ≤ ["coach", "tender", "coach"].length ∧ (arrangements ["coach", "tender", "coach"] 2).length = 6 ∧
    ["coach", "tender", "coach"].length < 4 ∧ arrangements ["coach", "tender", "coach"] 4 = [] ∧
    ["coach", "tender", "guard"].Nodup ∧ (arrangements ["coach", "tender", "guard"] 2).Nodup ∧
    ["guard", "coach"] ∈ arrangements ["coach", "tender", "guard"] 2 ∧ ["guard", "coach"].Nodup ∧
    Walk.run ["coach", "tender", "guard"] 2 2 =
      some ⟨[false, false, false], [], arrangements ["coach", "tender", "guard"] 2⟩ := by
  have hfits : 2 ≤ ["coach", "tender", "coach"].length := by decide
  have hshort : ["coach", "tender", "coach"].length < 4 := by decide
  have hnodup : ["coach", "tender", "guard"].Nodup := by decide
  have hmem : ["guard", "coach"] ∈ arrangements ["coach", "tender", "guard"] 2 := by decide
  obtain ⟨-, hcount, -⟩ := arrangements_by_places ["coach", "tender", "coach"] 2
  obtain ⟨-, -, -, hnone, -⟩ := arrangements_by_places ["coach", "tender", "coach"] 4
  obtain ⟨-, -, -, -, hapart, hwalk⟩ := arrangements_by_places ["coach", "tender", "guard"] 2
  obtain ⟨hdifferent, hall⟩ := hapart hnodup
  exact ⟨hfits, hcount hfits, hshort, hnone hshort, hnodup, hdifferent, hmem, hall _ hmem,
    hwalk 2 (Nat.le_refl 2)⟩

end MeaningGraph
