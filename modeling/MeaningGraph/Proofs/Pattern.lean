/-
# Where a pattern leads

The search carries sets of positions, one bit for each, through the moves of a pattern.  What moves do to any set is
known from what they do to one position: `Reads m R` says that from a set they lead to the positions that the relation
`R` leads to from a member.

    pass marked width     from a marked position, so far on
    seq                   the relations one after the other
    alt                   any of the relations

A choice and a sequence begin without a trace, so what loops inside them have seen does not matter here.  A pattern
occurs in a text when its relation leads anywhere from a position of the text (`occursIn_iff`).
-/
import Mathlib.Data.Nat.Bitwise
import Mathlib.Logic.Relation
import MeaningGraph.Pattern.Occurrence

namespace MeaningGraph

open Relation (Comp)

/-! ## Sets of positions -/

namespace Positions

variable {text : List Char} {test : Option Char → List Char → Bool} {i k n : Nat} {s : Positions}

theorem testBit_add_position : (s ||| 1 <<< i).testBit k = true ↔ s.testBit k = true ∨ k = i := by
  rw [Nat.testBit_or, Nat.one_shiftLeft, Nat.testBit_two_pow, Bool.or_eq_true, decide_eq_true_eq]
  exact or_congr_right eq_comm

theorem testBit_below : (below n).testBit i = true ↔ i < n := by
  rw [below, Nat.one_shiftLeft, Nat.testBit_two_pow_sub_one, decide_eq_true_eq]

/-- The positions found so far stay, and where the rest of the text is split so that the test passes one is added.
The induction is on the rest; the character before it is carried along. -/
theorem testBit_collect {before : Option Char} {cs : List Char} :
    (collect test n before s cs).testBit k = true ↔ s.testBit k = true ∨
      ∃ pre post, cs = pre ++ post ∧ k = n + pre.length ∧ test (pre.getLast?.or before) post = true := by
  have hmark : ∀ before n (s : Positions) rest,
      (if test before rest then s ||| 1 <<< n else s).testBit k = true ↔
        s.testBit k = true ∨ k = n ∧ test before rest = true := by
    intro before n s rest
    split
    · rename_i h
      rw [testBit_add_position, and_iff_left h]
    · rename_i h
      simp [h]
  induction cs generalizing n before s with
  | nil =>
    rw [collect, hmark]
    refine or_congr_right ⟨?_, ?_⟩
    · rintro ⟨rfl, htest⟩
      exact ⟨[], [], rfl, rfl, htest⟩
    · rintro ⟨pre, post, hsplit, rfl, htest⟩
      obtain ⟨rfl, rfl⟩ := List.append_eq_nil_iff.1 hsplit.symm
      exact ⟨rfl, htest⟩
  | cons c cs ih =>
    rw [collect]
    refine ih.trans ?_
    rw [hmark, or_assoc]
    refine or_congr_right ⟨?_, ?_⟩
    · rintro (⟨rfl, htest⟩ | ⟨pre, post, rfl, rfl, htest⟩)
      · exact ⟨[], c :: cs, rfl, rfl, htest⟩
      · refine ⟨c :: pre, post, rfl, by simp; omega, ?_⟩
        rw [List.getLast?_cons]
        cases hlast : pre.getLast? <;> simpa [hlast] using htest
    · rintro ⟨pre, post, hsplit, rfl, htest⟩
      cases pre with
      | nil =>
        cases hsplit
        exact .inl ⟨rfl, htest⟩
      | cons d pre =>
        cases hsplit
        refine .inr ⟨pre, post, rfl, by simp; omega, ?_⟩
        rw [List.getLast?_cons] at htest
        cases hlast : pre.getLast? <;> simpa [hlast] using htest

theorem testBit_whereIn : (whereIn text test).testBit i = true ↔
    ∃ pre post, text = pre ++ post ∧ i = pre.length ∧ test pre.getLast? post = true := by
  rw [whereIn, testBit_collect]
  simp

end Positions

/-! ## Moves -/

namespace Moves

variable {m : Moves} {ms : List Moves} {R S : Nat → Nat → Prop} {marked : Positions} {width : Nat}

/-- From a set of positions the moves lead where the relation leads from its members. -/
def Reads (m : Moves) (R : Nat → Nat → Prop) : Prop :=
  ∀ (s : Positions) (j : Nat), (m.image s).testBit j = true ↔ ∃ i, s.testBit i = true ∧ R i j

theorem Reads.imp (h : m.Reads R) (hRS : ∀ i j, R i j ↔ S i j) : m.Reads S := by
  intro s j
  simp only [h s j, hRS]

theorem reads_pass : (pass marked width).Reads fun i j => marked.testBit i = true ∧ j = i + width := by
  intro s j
  show ((s &&& marked) <<< width).testBit j = true ↔ _
  rw [Nat.testBit_shiftLeft, Nat.testBit_and, Bool.and_eq_true, Bool.and_eq_true, decide_eq_true_eq]
  constructor
  · rintro ⟨hle, hs, hmarked⟩
    exact ⟨j - width, hs, hmarked, by omega⟩
  · rintro ⟨i, hs, hmarked, rfl⟩
    rw [Nat.add_sub_cancel]
    exact ⟨Nat.le_add_left .., hs, hmarked⟩

theorem reads_seq_nil : (seq []).Reads Eq := by
  intro s j
  show s.testBit j = true ↔ _
  simp

/-- No set of positions is left without a position, so a sequence stops early only where nothing is lost. -/
theorem Reads.seq (h : m.Reads R) (hs : (seq ms).Reads S) : (seq (m :: ms)).Reads (Comp R S) := by
  intro s j
  have himage : (Moves.seq (m :: ms)).image s = if s = 0 then 0 else (Moves.seq ms).image (m.image s) := by
    show (runInTurn (m :: ms) .none s).1 = _
    rw [runInTurn]
    by_cases hzero : s = 0
    · rw [if_pos hzero]
      simp only [if_pos hzero]
    · rw [if_neg hzero]
      simp only [if_neg hzero]
      rfl
  have hrest : ((Moves.seq ms).image (m.image s)).testBit j = true ↔
      ∃ i, s.testBit i = true ∧ Comp R S i j := by
    rw [hs (m.image s) j]
    simp only [h s, Comp]
    constructor
    · rintro ⟨k, ⟨i, hi, hR⟩, hS⟩
      exact ⟨i, hi, k, hR, hS⟩
    · rintro ⟨i, hi, k, hR, hS⟩
      exact ⟨k, ⟨i, hi, hR⟩, hS⟩
  rw [himage, ← hrest]
  split
  · rename_i hzero
    subst hzero
    rw [hrest]
    simp
  · rfl

theorem reads_alt_nil : (alt []).Reads fun _ _ => False := by
  intro s j
  show (0 : Nat).testBit j = true ↔ _
  simp

theorem Reads.alt (h : m.Reads R) (hs : (alt ms).Reads S) : (alt (m :: ms)).Reads fun i j => R i j ∨ S i j := by
  intro s j
  have himage : (Moves.alt (m :: ms)).image s = m.image s ||| (Moves.alt ms).image s := by
    show (runEach (m :: ms) .none s).1 = _
    rw [runEach]
    rfl
  rw [himage, Nat.testBit_or, Bool.or_eq_true, h s j, hs s j]
  simp only [and_or_left, exists_or]

end Moves

/-! ## Patterns -/

namespace Pattern

variable {p : Pattern} {ps : List Pattern} {R S : Nat → Nat → Prop}

/-- In the text the pattern leads where the relation leads. -/
def Reads (p : Pattern) (text : List Char) (R : Nat → Nat → Prop) : Prop :=
  (p.moves text).Reads R

/-! The rules, as for moves. -/

theorem reads_seq_nil (text : List Char) : (seq []).Reads text Eq :=
  Moves.reads_seq_nil

theorem Reads.seq {text : List Char} (h : p.Reads text R) (hs : (seq ps).Reads text S) :
    (seq (p :: ps)).Reads text (Comp R S) :=
  Moves.Reads.seq h hs

theorem reads_alt_nil (text : List Char) : (alt []).Reads text fun _ _ => False :=
  Moves.reads_alt_nil

theorem Reads.alt {text : List Char} (h : p.Reads text R) (hs : (alt ps).Reads text S) :
    (alt (p :: ps)).Reads text fun i j => R i j ∨ S i j :=
  Moves.Reads.alt h hs

theorem reads_literal (text cs : List Char) : (literal cs).Reads text fun i j =>
    ∃ pre post, text = pre ++ cs ++ post ∧ i = pre.length ∧ j = i + cs.length := by
  refine Moves.reads_pass.imp fun i j => ?_
  rw [Positions.testBit_whereIn]
  constructor
  · rintro ⟨⟨pre, rest, rfl, rfl, hprefix⟩, rfl⟩
    obtain ⟨post, rfl⟩ := List.isPrefixOf_iff_prefix.1 hprefix
    exact ⟨pre, post, (List.append_assoc ..).symm, rfl, rfl⟩
  · rintro ⟨pre, post, rfl, rfl, rfl⟩
    refine ⟨⟨pre, cs ++ post, List.append_assoc .., rfl, ?_⟩, rfl⟩
    exact List.isPrefixOf_iff_prefix.2 (List.prefix_append cs post)

theorem reads_textStart (text : List Char) : (look .textStart).Reads text fun i j => i = 0 ∧ j = 0 := by
  refine Moves.reads_pass.imp fun i j => ?_
  simp only [Positions.testBit_whereIn, Look.holds_textStart, List.getLast?_eq_none_iff, Nat.add_zero]
  constructor
  · rintro ⟨⟨_, post, rfl, rfl, rfl⟩, rfl⟩
    exact ⟨rfl, rfl⟩
  · rintro ⟨rfl, rfl⟩
    exact ⟨⟨[], text, rfl, rfl, rfl⟩, rfl⟩

theorem reads_textEnd (text : List Char) : (look .textEnd).Reads text fun i j => i = text.length ∧ j = i := by
  refine Moves.reads_pass.imp fun i j => ?_
  simp only [Positions.testBit_whereIn, Look.holds_textEnd, List.head?_eq_none_iff, Nat.add_zero]
  constructor
  · rintro ⟨⟨pre, _, rfl, rfl, rfl⟩, rfl⟩
    exact ⟨by simp, rfl⟩
  · rintro ⟨rfl, rfl⟩
    exact ⟨⟨text, [], by simp, rfl, rfl⟩, rfl⟩

/-- A pattern occurs in a text when its relation leads anywhere from a position of the text. -/
theorem occursIn_iff {text : String} (h : p.Reads text.toList R) :
    p.occursIn text = true ↔ ∃ i ≤ text.toList.length, ∃ j, R i j := by
  have hne : ∀ n : Nat, (n != 0) = true ↔ ∃ j, n.testBit j = true := by
    intro n
    rw [bne_iff_ne]
    refine ⟨Nat.exists_testBit_of_ne_zero, ?_⟩
    rintro ⟨j, hj⟩ rfl
    simp at hj
  show ((p.moves text.toList).image (.below (text.toList.length + 1)) != 0) = true ↔ _
  simp only [hne, h _, Positions.testBit_below, Nat.lt_succ_iff]
  constructor
  · rintro ⟨j, i, hi, hR⟩
    exact ⟨i, hi, j, hR⟩
  · rintro ⟨i, hi, j, hR⟩
    exact ⟨j, i, hi, hR⟩

end Pattern

end MeaningGraph
