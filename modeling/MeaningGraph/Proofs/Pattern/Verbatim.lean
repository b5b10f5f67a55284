/-
# The pattern of one name

A matcher for one name reads the name as a pattern, what is special in it escaped, between the two ends of a text.
The pattern that is read is the name itself, and it occurs in that name and in no other:

    name ── verbatim ──▶ ^name$ ── parse? ──▶ whole name ── occursIn ──▶ the text is the name

A pattern is refused when its automaton is too large.  That of a name has a state for each byte and six more, of 32
bytes each, so names of up to 327674 bytes are taken (`Fits`).  The matcher for a longer name takes nothing, the
name itself included (`accepts_exact`).
-/
import MeaningGraph.Matcher
import MeaningGraph.Proofs.Pattern

namespace MeaningGraph

open Automaton (Size)

namespace Pattern

variable {c : Char} {cs rest text : List Char} {r : Reader} {fuel n : Nat}

/-- The pattern of the characters, from the start of a text to its end. -/
def whole : List Char → Pattern
  | [] => .seq [.look .textStart, .look .textEnd]
  | c :: cs => .seq [.look .textStart, .literal (c :: cs), .look .textEnd]

/-! ## Reading -/

theorem charPattern_default (c : Char) : ({} : Flags).charPattern c = .literal [c] := by
  show ofSet (.single c) = _
  simp [ofSet, CharSet.single, CharSet.member?]

namespace Reader

theorem run?_cons (hflags : r.top.flags = {}) :
    run? (fuel + 1) r (c :: cs) = (r.step? c cs).bind fun (r, rest) => run? fuel r rest := by
  have hskip : r.top.flags.skip (c :: cs) = c :: cs := by
    rw [hflags]
    rfl
  conv_lhs => unfold run?
  rw [hskip]

theorem step?_plain (hflags : r.top.flags = {}) (hplain : c ∉ special) :
    r.step? c cs = some (r.push (.literal [c]), cs) := by
  simp only [special, List.mem_cons, List.not_mem_nil, or_false, not_or] at hplain
  unfold step?
  split <;> simp_all [charPattern_default]

theorem step?_backslash (hflags : r.top.flags = {}) (hspecial : c ∈ special) :
    r.step? '\\' (c :: cs) = some (r.push (.literal [c]), cs) := by
  have hread : Escape.read? {} (c :: cs) = some (.char c, cs) := by
    simp only [special, List.mem_cons, List.not_mem_nil, or_false] at hspecial
    rcases hspecial with rfl | rfl | rfl | rfl | rfl | rfl | rfl | rfl | rfl | rfl | rfl | rfl | rfl | rfl | rfl |
      rfl | rfl | rfl <;> rfl
  simp [step?, hflags, hread, Escape.pattern?, charPattern_default]

theorem run?_escape (hflags : r.top.flags = {}) :
    run? (fuel + 1) r (escape c ++ rest) = run? fuel (r.push (.literal [c])) rest := by
  unfold escape
  split
  · rename_i hspecial
    rw [List.cons_append, run?_cons hflags, List.singleton_append, step?_backslash hflags hspecial]
    rfl
  · rename_i hplain
    rw [List.singleton_append, run?_cons hflags, step?_plain hflags hplain]
    rfl

/-- The reader after the characters. -/
def pushAll (r : Reader) (cs : List Char) : Reader :=
  cs.foldl (fun r c => r.push (.literal [c])) r

theorem run?_flatMap_escape (hflags : r.top.flags = {}) :
    run? (cs.length + fuel) r (cs.flatMap escape ++ rest) = run? fuel (r.pushAll cs) rest := by
  induction cs generalizing r with
  | nil => rw [List.length_nil, Nat.zero_add]; rfl
  | cons c cs ih =>
    rw [List.length_cons, Nat.add_right_comm, List.flatMap_cons, List.append_assoc, run?_escape hflags]
    exact ih hflags

theorem pushAll_eq (r : Reader) (cs : List Char) :
    r.pushAll cs = { r with top := { r.top with
      items := (cs.map fun c => ({ pattern := .literal [c] } : Item)).reverse ++ r.top.items } } := by
  induction cs generalizing r with
  | nil => rfl
  | cons c cs ih =>
    rw [List.map_cons, List.reverse_cons, List.append_assoc]
    exact ih (r.push (.literal [c]))

end Reader

theorem foldr_consPart (cs : List Char) :
    (cs.map fun c => literal [c]).foldr consPart [.look .textEnd] =
      match cs with
      | [] => [.look .textEnd]
      | c :: cs => [.literal (c :: cs), .look .textEnd] := by
  induction cs with
  | nil => rfl
  | cons c cs ih =>
    rw [List.map_cons, List.foldr_cons, ih]
    cases cs <;> rfl

theorem sequence_whole (cs : List Char) :
    sequence (.look .textStart :: ((cs.map fun c => literal [c]) ++ [.look .textEnd])) = whole cs := by
  have hparts : (Pattern.look .textStart :: ((cs.map fun c => literal [c]) ++ [.look .textEnd])).flatMap parts =
      .look .textStart :: ((cs.map fun c => literal [c]) ++ [.look .textEnd]) := by
    simp [List.flatMap_map, parts, ← List.map_eq_flatMap]
  have hend : [Pattern.look .textEnd].foldr consPart [] = [.look .textEnd] := rfl
  rw [sequence, hparts, List.foldr_cons, List.foldr_append, hend, foldr_consPart]
  cases cs <;> rfl

theorem depthOf_le (items : List Item) (h : ∀ item ∈ items, item.depth = 0) : Item.depthOf items ≤ 1 := by
  have hmax : ∀ items : List Item, (∀ item ∈ items, item.depth = 0) → (items.map Item.depth).foldl max 0 = 0 := by
    intro items h
    induction items with
    | nil => rfl
    | cons item items ih =>
      obtain ⟨hitem, hitems⟩ := List.forall_mem_cons.1 h
      rw [List.map_cons, List.foldl_cons, hitem]
      exact ih hitems
  unfold Item.depthOf
  split
  · rename_i item
    rw [h item List.mem_cons_self]
    exact Nat.zero_le 1
  · rw [hmax items h]
    split <;> decide

/-- The items that are read: the two ends, and the characters between them one by one. -/
def itemsOf (cs : List Char) : List Item :=
  ⟨.look .textStart, 0, true⟩ :: (cs.map (fun c => ⟨.literal [c], 0, true⟩) ++ [⟨.look .textEnd, 0, true⟩])

theorem row_itemsOf (cs : List Char) : (Item.row (itemsOf cs)).pattern = whole cs := by
  have hpatterns : (itemsOf cs).map Item.pattern =
      .look .textStart :: ((cs.map fun c => literal [c]) ++ [.look .textEnd]) := by
    rw [itemsOf, List.map_cons, List.map_append, List.map_map]
    rfl
  rw [Item.row, hpatterns]
  exact sequence_whole cs

theorem depth_row_itemsOf (cs : List Char) : (Item.row (itemsOf cs)).depth ≤ 1 := by
  refine depthOf_le _ ?_
  rw [itemsOf, List.forall_mem_cons, List.forall_mem_append, List.forall_mem_singleton]
  exact ⟨rfl, List.forall_mem_map.2 fun _ _ => rfl, rfl⟩

theorem either_row_itemsOf (cs : List Char) :
    (Item.either [Item.row (itemsOf cs)]).pattern = whole cs := by
  rw [Item.either, List.map_singleton, row_itemsOf]
  cases cs <;> rfl

theorem length_le_flatMap_escape (cs : List Char) : cs.length ≤ (cs.flatMap escape).length := by
  induction cs with
  | nil => exact Nat.le_refl 0
  | cons c cs ih =>
    have hone : 1 ≤ (escape c).length := by
      unfold escape
      split <;> exact Nat.le_add_left ..
    rw [List.flatMap_cons, List.length_append, List.length_cons]
    omega

/-- A name is read as itself, if its automaton is not too large. -/
theorem parse?_verbatim (cs : List Char) :
    parse? (String.ofList (verbatim cs)) = if (whole cs).isWithinLimit then some (whole cs) else none := by
  have hlength : ∃ fuel, (verbatim cs).length = (cs.length + (fuel + 1)) + 1 := by
    refine ⟨(verbatim cs).length - cs.length - 2, ?_⟩
    have hle := length_le_flatMap_escape cs
    simp only [verbatim, List.length_cons, List.length_append]
    omega
  obtain ⟨fuel, hfuel⟩ := hlength
  have hrun : Reader.run? (verbatim cs).length ⟨⟨none, {}, [], []⟩, [], 0, []⟩ (verbatim cs) =
      some ⟨⟨none, {}, [], (itemsOf cs).reverse⟩, [], 0, []⟩ := by
    rw [hfuel, verbatim, Reader.run?_cons rfl]
    show Reader.run? (cs.length + (fuel + 1)) _ (cs.flatMap escape ++ ['$']) = _
    rw [Reader.run?_flatMap_escape rfl, Reader.pushAll_eq, Reader.run?_cons rfl, itemsOf, List.reverse_cons,
      List.reverse_append]
    cases fuel <;> rfl
  have hcontent : Group.content ⟨none, {}, [], (itemsOf cs).reverse⟩ = Item.either [Item.row (itemsOf cs)] := by
    rw [Group.content, Group.bar, List.reverse_reverse]
    rfl
  have hdepth : (Item.either [Item.row (itemsOf cs)]).depth ≤ nestLimit :=
    (depth_row_itemsOf cs).trans (by decide)
  unfold parse?
  rw [String.toList_ofList]
  simp only [hrun, Option.bind_eq_bind, Option.bind_some]
  show (Option.bind (some (Group.content _)) _) = _
  rw [hcontent, Option.bind_some, either_row_itemsOf]
  simp only [hdepth, decide_true, Bool.true_and]
  rfl

/-! ## The limit -/

/-- To grow twice is to grow by both, as what is too large stays so. -/
theorem grow?_bind (a b s : Size) : (Size.grow? a s).bind (Size.grow? b) = Size.grow? (a.add b) s := by
  have hadd : (s.add a).add b = s.add (a.add b) := by
    simp only [Size.add, Nat.add_assoc]
  have hbytes : ((s.add a).add b).bytes = (s.add a).bytes + b.bytes := Size.bytes_add _ _
  rw [hadd] at hbytes
  by_cases hfirst : (s.add a).bytes ≤ Size.limit
  · simp only [Size.grow?, if_pos hfirst, Option.bind_some, hadd]
  · have hboth : ¬ (s.add (a.add b)).bytes ≤ Size.limit := by omega
    simp only [Size.grow?, if_neg hfirst, if_neg hboth, Option.bind_none]

theorem length_bytes (c : Char) : (Encoding.bytes c.toNat).length = c.utf8Size := by
  unfold Encoding.bytes Char.utf8Size
  simp only [UInt32.le_iff_toNat_le, Char.toNat]
  split_ifs <;> first | rfl | (exfalso; simp at *; omega)

theorem length_bytesOf (cs : List Char) : (Encoding.bytesOf cs).length = (String.ofList cs).utf8ByteSize := by
  induction cs with
  | nil => rfl
  | cons c cs ih =>
    rw [String.ofList_cons, String.utf8ByteSize_append, String.utf8ByteSize_singleton, ← ih, Encoding.bytesOf,
      List.flatMap_cons, List.length_append, length_bytes]
    rfl

theorem grow?_whole (backward : Bool) (cs : List Char) :
    (whole cs).grow? backward = Size.grow? { states := (Encoding.bytesOf cs).length + 2 } := by
  funext size
  cases cs with
  | nil => cases backward <;> simp [whole, grow?, growRow?, grow?_bind, joints, joint, Size.add, Encoding.bytesOf]
  | cons c cs =>
    have hforward : ∀ n, 1 + (n + 1) = n + 2 := by omega
    have hbackward : ∀ n, 1 + n + 1 = n + 2 := by omega
    cases backward <;> simp [whole, grow?, growRow?, grow?_bind, joints, joint, Size.add, hforward, hbackward]

/-- The automaton of the name is within the limit. -/
def Fits (name : String) : Prop :=
  32 * (name.utf8ByteSize + 6) ≤ Size.limit

instance (name : String) : Decidable (Fits name) :=
  inferInstanceAs (Decidable (_ ≤ _))

/-- The automaton that reads forward is the larger one. -/
theorem isWithinLimit_whole (name : String) : (whole name.toList).isWithinLimit = true ↔ Fits name := by
  have hbytes := length_bytesOf name.toList
  rw [String.ofList_toList] at hbytes
  rw [Fits, ← hbytes]
  generalize name.toList = cs
  have hopens : (whole cs).opensWith .textStart = true := by
    cases cs <;> rfl
  have hcloses : (whole cs).closesWith .textEnd = true := by
    cases cs <;> rfl
  have hjoint : ∀ backward, (whole cs).joint backward = 0 := by
    intro backward
    cases cs <;> cases backward <;> rfl
  simp only [isWithinLimit, backwardSize?, forwardSize?, hopens, hcloses, hjoint, grow?_whole, grow?_bind]
  simp [Size.grow?, Size.add, Size.bytes, Size.limit]
  omega

theorem utf8ByteSize_replicate (n : Nat) : (String.ofList (List.replicate n 'a')).utf8ByteSize = n := by
  rw [← length_bytesOf, Encoding.bytesOf, List.length_flatMap, List.map_replicate, List.sum_replicate_nat]
  exact Nat.mul_one n

/-- A name that is too long. -/
@[irreducible]
def longName : String :=
  String.ofList (List.replicate 400000 'a')

theorem not_fits_longName : ¬ Fits longName := by
  have hsize : longName.utf8ByteSize = 400000 := by
    unfold longName
    exact utf8ByteSize_replicate 400000
  rw [Fits, hsize]
  decide

/-! ## Occurring -/

theorem occursIn_whole {text : String} : (whole cs).occursIn text = true ↔ text.toList = cs := by
  cases cs with
  | nil =>
    have hread := (reads_textStart text.toList).seq ((reads_textEnd text.toList).seq (reads_seq_nil text.toList))
    rw [whole, occursIn_iff hread]
    simp [Relation.Comp]
  | cons c cs =>
    have hread := (reads_textStart text.toList).seq ((reads_literal text.toList (c :: cs)).seq
      ((reads_textEnd text.toList).seq (reads_seq_nil text.toList)))
    rw [whole, occursIn_iff hread]
    constructor
    · rintro ⟨i, -, j, _, ⟨rfl, rfl⟩, _, ⟨pre, post, hsplit, hpre, rfl⟩, _, ⟨hend, rfl⟩, rfl⟩
      obtain rfl := List.eq_nil_of_length_eq_zero hpre.symm
      have hpost : post.length = 0 := by
        rw [hsplit, List.length_append, List.length_append] at hend
        simp only [List.length_nil] at hend
        omega
      rw [hsplit, List.eq_nil_of_length_eq_zero hpost, List.nil_append, List.append_nil]
    · intro htext
      refine ⟨0, Nat.zero_le _, (c :: cs).length, 0, ⟨rfl, rfl⟩, (c :: cs).length, ⟨[], [], ?_, rfl, ?_⟩,
        (c :: cs).length, ⟨by rw [htext], rfl⟩, rfl⟩
      · rw [htext, List.nil_append, List.append_nil]
      · rw [Nat.zero_add]

end Pattern

namespace Matcher

variable {g : Graph} {id : MachineId} {name : String}

theorem exact_of_fits (h : Pattern.Fits name) : exact name = .printname (.whole name.toList) := by
  rw [exact, Pattern.parse?_verbatim, if_pos ((Pattern.isWithinLimit_whole name).2 h)]

/-- Of a name that is too long there is no pattern, and nothing is taken. -/
theorem exact_of_not_fits (h : ¬ Pattern.Fits name) : exact name = .any [] := by
  rw [exact, Pattern.parse?_verbatim, if_neg fun hlimit => h ((Pattern.isWithinLimit_whole name).1 hlimit)]

theorem accepts_exact : (exact name).accepts g id = true ↔ g.name? id = some name ∧ Pattern.Fits name := by
  by_cases h : Pattern.Fits name
  · rw [exact_of_fits h, and_iff_left h, accepts, Option.any_eq_true]
    simp only [Pattern.occursIn_whole, String.toList_inj, exists_eq_right]
  · rw [exact_of_not_fits h]
    simp [accepts, acceptsAny, h]

end Matcher

end MeaningGraph
