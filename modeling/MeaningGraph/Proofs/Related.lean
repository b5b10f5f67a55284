/-
# Lists and options related item by item

What can be computed from two lists whose items are related one by one, when the functions applied do not
tell related items apart.
-/
import Mathlib.Data.List.Forall2

namespace MeaningGraph

open List (Forall₂)

variable {α β : Type} {R R' : α → β → Prop} {as : List α} {bs : List β} {x : Option α} {y : Option β}
  {p : α → Bool} {q : β → Bool} {a : α}

theorem exists_of_forall₂_left (h : Forall₂ R as bs) (ha : a ∈ as) : ∃ b ∈ bs, R a b := by
  induction h with
  | nil => cases ha
  | cons hab _ ih =>
    rcases List.mem_cons.1 ha with rfl | ha
    · exact ⟨_, List.mem_cons_self, hab⟩
    · obtain ⟨b, hb, hR⟩ := ih ha
      exact ⟨b, List.mem_cons_of_mem _ hb, hR⟩

theorem forall₂_trans {S : α → α → Prop} [IsTrans α S] {as bs cs : List α} (h : Forall₂ S as bs)
    (h' : Forall₂ S bs cs) : Forall₂ S as cs := by
  induction h generalizing cs with
  | nil => exact h'
  | cons hab _ ih =>
    cases h' with
    | cons hbc hrest => exact .cons (trans_of S hab hbc) (ih hrest)

theorem rel_find? (h : Forall₂ R as bs) (hpq : ∀ a b, R a b → p a = q b) :
    Option.Rel R (as.find? p) (bs.find? q) := by
  induction h with
  | nil => exact .none
  | @cons a b _ _ hab _ ih =>
    rw [List.find?_cons, List.find?_cons, hpq a b hab]
    cases q b with
    | true => exact .some hab
    | false => exact ih

theorem rel_head? (h : Forall₂ R as bs) : Option.Rel R as.head? bs.head? := by
  cases h with
  | nil => exact .none
  | cons hab _ => exact .some hab

theorem rel_filter (h : Forall₂ R as bs) (hpq : ∀ a b, R a b → p a = q b) :
    Forall₂ R (as.filter p) (bs.filter q) :=
  List.rel_filter (fun a b hab => Bool.eq_iff_iff.1 (hpq a b hab)) h

theorem any_eq_of_rel (h : Forall₂ R as bs) (hpq : ∀ a b, R a b → p a = q b) :
    as.any p = bs.any q := by
  induction h with
  | nil => rfl
  | cons hab _ ih => rw [List.any_cons, List.any_cons, hpq _ _ hab, ih]

theorem all_eq_of_rel (h : Forall₂ R as bs) (hpq : ∀ a b, R a b → p a = q b) :
    as.all p = bs.all q := by
  induction h with
  | nil => rfl
  | cons hab _ ih => rw [List.all_cons, List.all_cons, hpq _ _ hab, ih]

theorem isEmpty_eq_of_rel (h : Forall₂ R as bs) : as.isEmpty = bs.isEmpty := by
  cases h <;> rfl

theorem countP_eq_of_rel (h : Forall₂ R as bs) (hpq : ∀ a b, R a b → p a = q b) :
    as.countP p = bs.countP q := by
  induction h with
  | nil => rfl
  | cons hab _ ih => rw [List.countP_cons, List.countP_cons, hpq _ _ hab, ih]

theorem map_eq_of_rel {γ : Type} {f : α → γ} {k : β → γ} (h : Forall₂ R as bs)
    (hfk : ∀ a b, R a b → f a = k b) : as.map f = bs.map k := by
  induction h with
  | nil => rfl
  | cons hab _ ih => rw [List.map_cons, List.map_cons, hfk _ _ hab, ih]

theorem filterMap_eq_of_rel {γ : Type} {f : α → Option γ} {k : β → Option γ} (h : Forall₂ R as bs)
    (hfk : ∀ a b, R a b → f a = k b) : as.filterMap f = bs.filterMap k := by
  induction h with
  | nil => rfl
  | cons hab _ ih => rw [List.filterMap_cons, List.filterMap_cons, hfk _ _ hab, ih]

theorem optionRel_imp (h : Option.Rel R x y) (hR : ∀ a b, R a b → R' a b) : Option.Rel R' x y := by
  cases h with
  | some hab => exact .some (hR _ _ hab)
  | none => exact .none

theorem isSome_eq_of_rel (h : Option.Rel R x y) : x.isSome = y.isSome := by
  cases h with
  | some _ => rfl
  | none => rfl

theorem option_any_eq_of_rel (h : Option.Rel R x y) (hpq : ∀ a b, R a b → p a = q b) :
    x.any p = y.any q := by
  cases h with
  | some hab => exact hpq _ _ hab
  | none => rfl

end MeaningGraph
