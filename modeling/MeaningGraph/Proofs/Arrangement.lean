/-
# Which arrangements there are

A pick takes an item out of a list and leaves the others, so an arrangement is a list that sits in the
given one up to order, and every such list is one:

    seq ∈ arrangements as n    ↔  seq.length = n  ∧  seq <+~ as
    seq ∈ arrangementsUpTo as n  ↔  1 ≤ seq.length ≤ n  ∧  seq <+~ as

In particular every sequence of different items is among them.

They come in order: the longest first, and those of one length in lexicographic order of the items picked
(`pairwise_arrangementsUpTo`).  In an increasing list the items picked first increase, and each leaves an increasing
list behind.
-/
import Mathlib.Data.List.Lex
import Mathlib.Data.List.Nodup
import Mathlib.Data.List.Perm.Subperm
import MeaningGraph.Arrangement

namespace MeaningGraph

variable {α : Type} {a : α} {as rest seq : List α} {n : Nat}

theorem perm_of_mem_picks (h : (a, rest) ∈ picks as) : as.Perm (a :: rest) := by
  induction as generalizing rest with
  | nil => cases h
  | cons b bs ih =>
    rcases List.mem_cons.1 h with heq | h
    · cases heq
      exact .refl _
    · obtain ⟨⟨c, left⟩, hc, heq⟩ := List.mem_map.1 h
      cases heq
      exact ((ih hc).cons b).trans (.swap a b left)

theorem exists_mem_picks (h : a ∈ as) : ∃ rest, (a, rest) ∈ picks as := by
  induction as with
  | nil => cases h
  | cons b bs ih =>
    rcases List.mem_cons.1 h with rfl | h
    · exact ⟨bs, List.mem_cons_self⟩
    · obtain ⟨rest, hrest⟩ := ih h
      exact ⟨b :: rest, List.mem_cons_of_mem _ (List.mem_map.2 ⟨(a, rest), hrest, rfl⟩)⟩

theorem mem_arrangements_iff : seq ∈ arrangements as n ↔ seq.length = n ∧ seq.Subperm as := by
  induction n generalizing as seq with
  | zero =>
    constructor
    · intro h
      obtain rfl := List.mem_singleton.1 h
      exact ⟨rfl, List.nil_subperm⟩
    · rintro ⟨hlength, -⟩
      exact List.mem_singleton.2 (List.length_eq_zero_iff.1 hlength)
  | succ n ih =>
    constructor
    · intro h
      obtain ⟨⟨a, rest⟩, hpick, h⟩ := List.mem_flatMap.1 h
      obtain ⟨tail, htail, rfl⟩ := List.mem_map.1 h
      obtain ⟨hlength, hsub⟩ := ih.1 htail
      refine ⟨congrArg (· + 1) hlength, (perm_of_mem_picks hpick).subperm_left.2 ?_⟩
      exact (List.subperm_cons a).2 hsub
    · rintro ⟨hlength, hsub⟩
      cases seq with
      | nil => cases hlength
      | cons a tail =>
        obtain ⟨rest, hpick⟩ := exists_mem_picks (hsub.subset List.mem_cons_self)
        have hrest : tail.Subperm rest :=
          (List.subperm_cons a).1 ((perm_of_mem_picks hpick).subperm_left.1 hsub)
        have htail : tail ∈ arrangements rest n := ih.2 ⟨Nat.succ.inj hlength, hrest⟩
        exact List.mem_flatMap.2 ⟨(a, rest), hpick, List.mem_map.2 ⟨tail, htail, rfl⟩⟩

theorem mem_arrangementsUpTo_iff :
    seq ∈ arrangementsUpTo as n ↔ 1 ≤ seq.length ∧ seq.length ≤ n ∧ seq.Subperm as := by
  unfold arrangementsUpTo
  constructor
  · intro h
    obtain ⟨k, hk, h⟩ := List.mem_flatMap.1 h
    have hle := List.mem_range.1 (List.mem_reverse.1 hk)
    obtain ⟨hlength, hsub⟩ := mem_arrangements_iff.1 h
    exact ⟨by omega, by omega, hsub⟩
  · rintro ⟨hpos, hle, hsub⟩
    have hfits := hsub.length_le
    refine List.mem_flatMap.2 ⟨seq.length - 1, List.mem_reverse.2 (List.mem_range.2 (by omega)), ?_⟩
    exact mem_arrangements_iff.2 ⟨by omega, hsub⟩

theorem mem_arrangementsUpTo_of_nodup (hnodup : seq.Nodup) (hsub : seq ⊆ as) (hpos : 1 ≤ seq.length)
    (hle : seq.length ≤ n) : seq ∈ arrangementsUpTo as n :=
  mem_arrangementsUpTo_iff.2 ⟨hpos, hle, hnodup.subperm hsub⟩

/-! ## In which order they come -/

theorem map_fst_picks (as : List α) : (picks as).map Prod.fst = as := by
  induction as with
  | nil => rfl
  | cons a as ih =>
    rw [picks, List.map_cons, List.map_map]
    exact congrArg (a :: ·) ih

theorem sublist_of_mem_picks (h : (a, rest) ∈ picks as) : rest.Sublist as := by
  induction as generalizing rest with
  | nil => cases h
  | cons b bs ih =>
    rcases List.mem_cons.1 h with heq | h
    · cases heq
      exact List.sublist_cons_self _ _
    · obtain ⟨⟨c, left⟩, hc, heq⟩ := List.mem_map.1 h
      cases heq
      exact (ih hc).cons_cons b

/-- The arrangements of an increasing list come in lexicographic order. -/
theorem pairwise_arrangements {R : α → α → Prop} (h : as.Pairwise R) (n : Nat) :
    (arrangements as n).Pairwise (List.Lex R) := by
  induction n generalizing as with
  | zero => exact List.pairwise_singleton _ _
  | succ n ih =>
    have hpicks : (picks as).Pairwise fun p q => R p.1 q.1 := by
      rw [← List.pairwise_map, map_fst_picks]
      exact h
    refine List.pairwise_flatMap.2 ⟨?_, hpicks.imp ?_⟩
    · rintro ⟨a, rest⟩ hpick
      exact List.pairwise_map.2 ((ih (h.sublist (sublist_of_mem_picks hpick))).imp .cons)
    · rintro ⟨a, rest⟩ ⟨b, rest'⟩ hab s hs t ht
      obtain ⟨tail, -, rfl⟩ := List.mem_map.1 hs
      obtain ⟨tail', -, rfl⟩ := List.mem_map.1 ht
      exact .rel hab

section Precedes

variable [DecidableEq α]

/-- Longer before shorter; of the same length, in lexicographic order of the places that the items have in `as`. -/
def Precedes (as s t : List α) : Prop :=
  t.length < s.length ∨ s.length = t.length ∧ List.Lex (fun a b => as.idxOf a < as.idxOf b) s t

theorem Precedes.asymm {s t : List α} (h : Precedes as s t) : ¬ Precedes as t s := by
  have hplaces : Std.Asymm fun a b : α => as.idxOf a < as.idxOf b := ⟨fun _ _ => Nat.lt_asymm⟩
  have hlex := List.Lex.asymm fun a b : α => as.idxOf a < as.idxOf b
  rintro (hlonger | ⟨hlength, hbefore⟩)
  · rcases h with h | ⟨h, -⟩ <;> omega
  · rcases h with h | ⟨-, h⟩
    · omega
    · exact hlex.asymm _ _ h hbefore

theorem pairwise_idxOf_lt (h : as.Nodup) : as.Pairwise fun a b => as.idxOf a < as.idxOf b := by
  refine List.pairwise_iff_getElem.2 fun i j hi hj hij => ?_
  rwa [h.idxOf_getElem i hi, h.idxOf_getElem j hj]

/-- Each of the arrangements precedes all that come after it. -/
theorem pairwise_arrangementsUpTo (h : as.Nodup) (n : Nat) : (arrangementsUpTo as n).Pairwise (Precedes as) := by
  refine List.pairwise_flatMap.2 ⟨fun k _ => ?_, List.pairwise_reverse.2 (List.pairwise_lt_range.imp ?_)⟩
  · refine (pairwise_arrangements (pairwise_idxOf_lt h) (k + 1)).imp_of_mem fun hs ht hlex => .inr ⟨?_, hlex⟩
    rw [(mem_arrangements_iff.1 hs).1, (mem_arrangements_iff.1 ht).1]
  · intro k k' hlt s hs t ht
    refine .inl ?_
    rw [(mem_arrangements_iff.1 hs).1, (mem_arrangements_iff.1 ht).1]
    omega

end Precedes

end MeaningGraph
