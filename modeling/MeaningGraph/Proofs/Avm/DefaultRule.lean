/-
# The default rule is a formula

A matrix without a formula goes through its slots; a formula asks for slots by name.  The rule that holds without a
formula can be written as one, the conjunction of what each slot asks for:

    required slot s     s
    negative slot s     not s
    optional slot s     nothing

The two ways to look come to the same because a name tells one slot from all others.  If two slots had one name, a
formula would take both for filled as soon as one is:

    to : filled, to : empty      every required slot is filled  false,      to and to  true

No call leaves such a matrix behind.  A slot is added in the place of the one with its name, and offers and clearing
leave the names alone.

A place in a formula is a formula with a hole (`Formula.Hole`).  What is evaluated alike at the place is evaluated
alike in the whole, however deep the place is.
-/
import MeaningGraph.Proofs.Avm.Filling

namespace MeaningGraph

/-! ## Places in a formula -/

namespace Formula

/-- A formula with a hole; the parts beside the hole are formulas without one. -/
inductive Hole where
  | here
  | not (h : Hole)
  | and (before : List Formula) (h : Hole) (after : List Formula)
  | or (before : List Formula) (h : Hole) (after : List Formula)

/-- The formula that has `f` in the place of the hole. -/
def Hole.plug (f : Formula) : Hole → Formula
  | .here => f
  | .not h => .not (h.plug f)
  | .and before h after => .and (before ++ h.plug f :: after)
  | .or before h after => .or (before ++ h.plug f :: after)

variable {filled : String → Bool} {f f' : Formula}

/-- The induction is on the way from the whole formula to the hole. -/
theorem eval_plug_congr (hole : Hole) (heval : f.eval filled = f'.eval filled) :
    (hole.plug f).eval filled = (hole.plug f').eval filled := by
  induction hole with
  | here => exact heval
  | not h ih => rw [Hole.plug, Hole.plug, eval, eval, ih]
  | and before h after ih =>
    rw [Hole.plug, Hole.plug, eval, eval, evalAll_eq_all, evalAll_eq_all]
    rw [List.all_append, List.all_append, List.all_cons, List.all_cons, ih]
  | or before h after ih =>
    rw [Hole.plug, Hole.plug, eval, eval, evalAny_eq_any, evalAny_eq_any]
    rw [List.any_append, List.any_append, List.any_cons, List.any_cons, ih]

theorem eval_and_congr {fs fs' : List Formula} (hmem : ∀ f, f ∈ fs ↔ f ∈ fs') :
    (Formula.and fs).eval filled = (Formula.and fs').eval filled := by
  rw [eval, eval, evalAll_eq_all, evalAll_eq_all, Bool.eq_iff_iff, List.all_eq_true, List.all_eq_true]
  exact forall_congr' fun f => imp_congr_left (hmem f)

end Formula

/-- What the slot asks for, as a formula. -/
def AvmSlot.condition? (s : AvmSlot) : Option Formula :=
  match s.kind with
  | .required => some (.filled s.name)
  | .optional => none
  | .negative => some (.not (.filled s.name))

namespace Avm

variable {a : Avm} {s t slot : AvmSlot} {slots : List AvmSlot} {name : String} {history : List Call}

/-! ## Names -/

/-- No two slots have the same name. -/
def NamesApart (a : Avm) : Prop :=
  (a.slots.map (·.name)).Nodup

theorem names_putSlot (slot : AvmSlot) (slots : List AvmSlot) :
    (putSlot slot slots).map (·.name) =
      if slot.name ∈ slots.map (·.name) then slots.map (·.name) else slots.map (·.name) ++ [slot.name] := by
  induction slots with
  | nil => rfl
  | cons s slots ih =>
    unfold putSlot
    by_cases hname : s.name = slot.name
    · rw [if_pos hname, List.map_cons, List.map_cons, hname, if_pos List.mem_cons_self]
    · rw [if_neg hname, List.map_cons, List.map_cons, ih]
      by_cases hmem : slot.name ∈ slots.map (·.name)
      · rw [if_pos hmem, if_pos (List.mem_cons_of_mem _ hmem)]
      · have hnot : slot.name ∉ s.name :: slots.map (·.name) := by
          rw [List.mem_cons, not_or]
          exact ⟨Ne.symm hname, hmem⟩
        rw [if_neg hmem, if_neg hnot, List.cons_append]

/-- Filling and emptying slots leaves the names alone; adding one puts a new name behind the others, or leaves them
alone. -/
theorem NamesApart.call (h : a.NamesApart) (c : Call) : (a.call c).NamesApart := by
  cases c with
  | addSlot name matcher kind default =>
    have hnames := names_putSlot { name, matcher, kind, default } a.slots
    unfold NamesApart
    change ((putSlot { name, matcher, kind, default } a.slots).map (·.name)).Nodup
    rw [hnames]
    split
    · exact h
    · rename_i hnew
      exact List.nodup_append_comm.1 (List.nodup_cons.2 ⟨hnew, h⟩)
  | fill g id =>
    have hnames : (a.slots.map (·.offer g id)).map (·.name) = a.slots.map (·.name) := by
      rw [List.map_map]
      refine List.map_congr_left fun s _ => ?_
      rw [Function.comp_apply, AvmSlot.offer_eq]
    unfold NamesApart
    change ((a.slots.map (·.offer g id)).map (·.name)).Nodup
    rw [hnames]
    exact h
  | clear =>
    have hnames : (a.clear.slots).map (·.name) = a.slots.map (·.name) := by
      unfold clear
      rw [List.map_map]
      rfl
    unfold NamesApart
    change (a.clear.slots.map (·.name)).Nodup
    rw [hnames]
    exact h

theorem NamesApart.replay (h : a.NamesApart) (history : List Call) : (a.replay history).NamesApart := by
  induction history generalizing a with
  | nil => exact h
  | cons c history ih => exact ih (h.call c)

/-- The matrix has come about from one without slots, whatever its formula, by adding slots, offering machines and
clearing. -/
def Reached (a : Avm) : Prop :=
  ∃ formula history, a = replay { formula } history

theorem Reached.namesApart (h : a.Reached) : a.NamesApart := by
  obtain ⟨formula, history, rfl⟩ := h
  have hnone : NamesApart { formula } := List.nodup_nil
  exact hnone.replay history

/-! ## Slots by name -/

theorem NamesApart.eq_of_name (h : a.NamesApart) (hs : s ∈ a.slots) (ht : t ∈ a.slots) (hname : s.name = t.name) :
    s = t :=
  List.inj_on_of_nodup_map h hs ht hname

theorem NamesApart.find?_of_mem (h : a.NamesApart) (hs : s ∈ a.slots) :
    a.slots.find? (·.name = s.name) = some s := by
  cases hfind : a.slots.find? (·.name = s.name) with
  | none =>
    have hnot := List.find?_eq_none.1 hfind s hs
    simp at hnot
  | some t =>
    have hname : t.name = s.name := by simpa using List.find?_some hfind
    rw [h.eq_of_name (List.mem_of_find?_eq_some hfind) hs hname]

theorem NamesApart.get?_of_mem (h : a.NamesApart) (hs : s ∈ a.slots) : a.get? s.name = s.value := by
  rw [get?, h.find?_of_mem hs, Option.bind_some]

theorem get?_eq_none_of_name (h : ∀ s ∈ a.slots, s.name ≠ name) : a.get? name = none := by
  have hfind : a.slots.find? (·.name = name) = none := by
    rw [List.find?_eq_none]
    intro s hs
    simpa using h s hs
  rw [get?, hfind, Option.bind_none]

theorem isFilled_iff : a.isFilled name = true ↔ ∃ s ∈ a.slots, s.name = name ∧ s.isFilled = true := by
  simp only [isFilled, List.any_eq_true, Bool.and_eq_true, beq_iff_eq]

theorem NamesApart.isFilled_of_mem (h : a.NamesApart) (hs : s ∈ a.slots) : a.isFilled s.name = s.isFilled := by
  rw [Bool.eq_iff_iff, isFilled_iff]
  constructor
  · rintro ⟨t, ht, hname, hfilled⟩
    rwa [h.eq_of_name ht hs hname] at hfilled
  · intro hfilled
    exact ⟨s, hs, rfl, hfilled⟩

theorem NamesApart.isFilled_eq (h : a.NamesApart) (name : String) : a.isFilled name = (a.get? name).isSome := by
  by_cases hslot : ∃ s ∈ a.slots, s.name = name
  · obtain ⟨s, hs, rfl⟩ := hslot
    rw [h.isFilled_of_mem hs, h.get?_of_mem hs]
    rfl
  · have hnone : a.isFilled name = false := by
      rw [Bool.eq_false_iff, Ne, isFilled_iff]
      rintro ⟨s, hs, hname, -⟩
      exact hslot ⟨s, hs, hname⟩
    rw [hnone, get?_eq_none_of_name fun s hs hname => hslot ⟨s, hs, hname⟩]
    rfl

/-! ## The rule as a formula -/

/-- What the slots ask for. -/
def conditions (a : Avm) : List Formula :=
  a.slots.filterMap (·.condition?)

theorem NamesApart.isSatisfied_of_mem (h : a.NamesApart) (hs : s ∈ a.slots) :
    s.isSatisfied = s.condition?.all fun f => f.eval a.isFilled := by
  have hfilled := h.isFilled_of_mem hs
  unfold AvmSlot.isSatisfied AvmSlot.condition?
  cases s.kind with
  | required => simp [Formula.eval, hfilled]
  | optional => rfl
  | negative => simp [Formula.eval, hfilled]

theorem NamesApart.all_isSatisfied (h : a.NamesApart) :
    a.slots.all (·.isSatisfied) = (Formula.and a.conditions).eval a.isFilled := by
  rw [Formula.eval, Formula.evalAll_eq_all, conditions, List.all_filterMap, Bool.eq_iff_iff, List.all_eq_true,
    List.all_eq_true]
  refine forall₂_congr fun s hs => ?_
  rw [h.isSatisfied_of_mem hs]
  cases s.condition? <;> rfl

/-- However a matrix has come about, a name tells its slots apart: it leads to the value of the one slot that has it,
to nothing if there is none, and is true in a formula when there is a value.  So the matrix without a formula is
satisfied exactly when it is with the conjunction of what its slots ask for, in any order.  In any formula, what is
evaluated alike as the slots are filled now can be put in each other's place. -/
theorem default_rule_as_formula {a : Avm} (ha : a.Reached) :
    (a.slots.map (·.name)).Nodup ∧
    (∀ s ∈ a.slots, a.get? s.name = s.value) ∧
    (∀ name, (∀ s ∈ a.slots, s.name ≠ name) → a.get? name = none) ∧
    (∀ name, a.isFilled name = (a.get? name).isSome) ∧
    (∀ parts, (∀ f, f ∈ parts ↔ f ∈ a.conditions) →
      { a with formula := none }.isSatisfied = { a with formula := some (.and parts) }.isSatisfied) ∧
    ∀ (hole : Formula.Hole) (f f' : Formula), f.eval a.isFilled = f'.eval a.isFilled →
      { a with formula := some (hole.plug f) }.isSatisfied = { a with formula := some (hole.plug f') }.isSatisfied := by
  have hnames := ha.namesApart
  refine ⟨hnames, fun s hs => hnames.get?_of_mem hs, fun name => get?_eq_none_of_name, hnames.isFilled_eq, ?_, ?_⟩
  · intro parts hparts
    calc a.slots.all (·.isSatisfied)
        = (Formula.and a.conditions).eval a.isFilled := hnames.all_isSatisfied
      _ = (Formula.and parts).eval a.isFilled := Formula.eval_and_congr fun f => (hparts f).symm
  · intro hole f f' heval
    exact Formula.eval_plug_congr hole heval

/-- The slot `to` is added twice; the second one takes the train, and the slot `via` is left empty. -/
def rerouted : Avm :=
  replay {} [.addSlot "to" (.member ["harbour"]) .required none, .addSlot "via" (.member ["depot"]) .negative none,
    .addSlot "to" (.member ["train"]) .required none, .fill trainAndDepot ⟨0, 1⟩]

/-- The parts of the conjunction may stand the other way round, and two slots that are empty and not there at all are
alike under a negation. -/
theorem default_rule_as_formula_rerouted :
    rerouted.Reached ∧ rerouted.slots.map (·.name) = ["to", "via"] ∧ rerouted.get? "to" = some ⟨0, 1⟩ ∧
    rerouted.get? "by" = none ∧
    (∀ f, f ∈ [.not (.filled "via"), .filled "to"] ↔ f ∈ rerouted.conditions) ∧
    { rerouted with formula := some (.and [.not (.filled "via"), .filled "to"]) }.isSatisfied = true ∧
    (Formula.filled "via").eval rerouted.isFilled = (Formula.filled "by").eval rerouted.isFilled ∧
    { rerouted with formula := some (.or [.filled "by", .not (.filled "via")]) }.isSatisfied =
      { rerouted with formula := some (.or [.filled "by", .not (.filled "by")]) }.isSatisfied := by
  have hreached : rerouted.Reached := ⟨none, _, rfl⟩
  obtain ⟨-, hvalue, hnone, -, hrule, hplace⟩ := default_rule_as_formula hreached
  have hslots : rerouted.slots =
      [⟨"to", .member ["train"], .required, none, some ⟨0, 1⟩⟩, ⟨"via", .member ["depot"], .negative, none, none⟩] := by
    rfl
  have hparts : ∀ f, f ∈ [.not (.filled "via"), .filled "to"] ↔ f ∈ rerouted.conditions := by
    intro f
    rw [conditions, hslots]
    simp [AvmSlot.condition?, or_comm]
  have halike : (Formula.filled "via").eval rerouted.isFilled = (Formula.filled "by").eval rerouted.isFilled := by
    decide
  refine ⟨hreached, ?_, ?_, ?_, hparts, ?_, halike, ?_⟩
  · rw [hslots]
    rfl
  · exact hvalue ⟨"to", .member ["train"], .required, none, some ⟨0, 1⟩⟩ (hslots ▸ List.mem_cons_self)
  · refine hnone "by" ?_
    rw [hslots]
    decide
  · rw [← hrule _ hparts]
    decide
  · exact hplace (.or [.filled "by"] (.not .here) []) _ _ halike

/-- With two slots of one name the formula would be satisfied by the one, and the slots would not be. -/
example :
    let a : Avm :=
      { slots := [⟨"to", .concept, .required, none, some ⟨0, 1⟩⟩, ⟨"to", .concept, .required, none, none⟩] }
    (a.isSatisfied, { a with formula := some (.and a.conditions) }.isSatisfied) = (false, true) := by
  decide

end Avm

end MeaningGraph
