/-
# Chunk reduction in twins

The windows of paired chunks are paired, and a rule puts something else in the place of a window on one side
exactly when it does on the other.
-/
import MeaningGraph.Chunk
import MeaningGraph.Proofs.Twin.Pass

namespace MeaningGraph

open List (Forall₂)

/-! ## Windows -/

/-- Two windows are paired part by part. -/
structure Window.Paired (v : Pairing) (x y : Window MachineId) : Prop where
  before : Forall₂ v x.before y.before
  inside : Forall₂ v x.inside y.inside
  after : Forall₂ v x.after y.after

namespace Window

variable {v v' : Pairing} {as bs : List MachineId} {x y : Window MachineId}

theorem Paired.mono (h : Paired v x y) (hv : v ≤ v') : Paired v' x y :=
  ⟨h.before.imp hv, h.inside.imp hv, h.after.imp hv⟩

theorem Paired.splice (h : Paired v x y) (has : Forall₂ v as bs) :
    Forall₂ v (x.splice as) (y.splice bs) :=
  List.rel_append (List.rel_append h.before has) h.after

theorem rel_ofLength (h : Forall₂ v as bs) (n : Nat) :
    Forall₂ (Paired v) (ofLength as n) (ofLength bs n) := by
  unfold ofLength
  rw [h.length_eq]
  refine List.forall₂_map_left_iff.2 (List.forall₂_map_right_iff.2 ?_)
  refine List.forall₂_same.2 fun start _ => ⟨?_, ?_, ?_⟩
  · exact List.forall₂_take start h
  · exact List.forall₂_take n (List.forall₂_drop start h)
  · exact List.forall₂_drop (start + n) h

theorem rel_all (h : Forall₂ v as bs) : Forall₂ (Paired v) (all as) (all bs) := by
  unfold all
  rw [h.length_eq]
  exact rel_flatMap_same _ fun n => rel_ofLength h (n + 1)

end Window

/-! ## Reductions -/

namespace Chunk

variable {base l₁ l₂ : Lexicon} {p : Construction} {ps : List Construction} {w : World}
  {as bs : List MachineId} {s t : Construction × Lexicon}
  {ss ts : List Construction × Lexicon}

theorem reduceWith_twin (h : Construction.Runs base p w s t) (has : Forall₂ w.active as bs) :
    Construction.Agree base p (fun w' x y => Option.Rel (Forall₂ w'.active) x y) w (reduceWith as s)
      (reduceWith bs t) := by
  unfold reduceWith
  refine (h.checkNow has).bind fun w₁ x y s₁ t₁ hw₁ h₁ hxy => ?_
  subst hxy
  split
  · refine (h₁.act (has.imp hw₁.2)).bind fun w₂ x y s₂ t₂ hw₂ h₂ hxy => ?_
    cases hxy with
    | none => exact .pure h₂ .none
    | @some new₁ new₂ hnew =>
      have hiff := Pairing.list_eq_iff h₂.lexica.unique_active hnew ((has.imp hw₁.2).imp hw₂.2)
      refine .pure h₂ ?_
      by_cases hsame : new₂ = bs
      · rw [if_pos hsame, if_pos (hiff.2 hsame)]
        exact .none
      · rw [if_neg hsame, if_neg (mt hiff.1 hsame)]
        exact .some hnew
  · exact .pure h₁ .none

theorem reduceIn_twin (h : RulesM.Runs base ps w ss ts) {xs ys : List (Window MachineId)}
    (hxs : Forall₂ (Window.Paired w.active) xs ys) :
    RulesM.Agree base ps (fun w' x y => Option.Rel (Forall₂ w'.active) x y) w (reduceIn xs ss)
      (reduceIn ys ts) := by
  induction xs generalizing w ss ts ys with
  | nil =>
    cases hxs
    exact .pure h .none
  | cons x xs ih =>
    cases hxs with
    | @cons _ y _ ys hx hxs =>
      obtain ⟨rs₁, l₁⟩ := ss
      obtain ⟨rs₂, l₂⟩ := ts
      have hfirst := RulesM.firstOf_twin (f := reduceWith x.inside) (k := reduceWith y.inside)
        (V := fun w' as bs => Forall₂ w'.active as bs) h
        fun w' p s t hw hrun => reduceWith_twin hrun (hx.inside.imp hw.2)
      refine Outcome.Agree.bind (x := RulesM.first (reduceWith x.inside))
        (y := RulesM.first (reduceWith y.inside)) hfirst fun w' a b s' t' hw h' hab => ?_
      cases hab with
      | none => exact ih h' (hxs.imp fun _ _ hxy => hxy.mono hw.2)
      | some hnew => exact .pure h' (.some ((hx.mono hw.2).splice hnew))

theorem reduce_twin (h : RulesM.Runs base ps w ss ts) (budget : Nat) (has : Forall₂ w.active as bs) :
    RulesM.Agree base ps (fun w' x y => x.1 = y.1 ∧ Forall₂ w'.active x.2 y.2) w (reduce budget as ss)
      (reduce budget bs ts) := by
  induction budget generalizing w ss ts as bs with
  | zero => exact .pure h ⟨rfl, has⟩
  | succ budget ih =>
    refine (reduceIn_twin h (Window.rel_all has)).bind fun w₁ x y s₁ t₁ hw₁ h₁ hxy => ?_
    cases hxy with
    | none => exact .pure h₁ ⟨rfl, has.imp hw₁.2⟩
    | some hnew =>
      refine (ih h₁ hnew).bind fun w₂ x y s₂ t₂ _ h₂ hxy => ?_
      exact .pure h₂ ⟨congrArg (· + 1) hxy.1, hxy.2⟩

theorem reduceAll_twin (h : RulesM.Runs base ps w ss ts) (budget : Nat)
    {chunks₁ chunks₂ : List (List MachineId)} (hchunks : Forall₂ (Forall₂ w.active) chunks₁ chunks₂) :
    RulesM.Agree base ps (fun w' x y => x.1 = y.1 ∧ Forall₂ (Forall₂ w'.active) x.2 y.2) w
      (reduceAll budget chunks₁ ss) (reduceAll budget chunks₂ ts) := by
  induction chunks₁ generalizing w ss ts chunks₂ with
  | nil =>
    cases hchunks
    exact .pure h ⟨rfl, .nil⟩
  | cons chunk chunks₁ ih =>
    cases hchunks with
    | cons hchunk hchunks =>
      refine (reduce_twin h budget hchunk).bind fun w₁ x y s₁ t₁ hw₁ h₁ hxy => ?_
      have hchunks' := hchunks.imp fun _ _ (hc : Forall₂ w.active _ _) => hc.imp hw₁.2
      refine (ih h₁ hchunks').bind fun w₂ x' y' s₂ t₂ hw₂ h₂ hxy' => ?_
      exact .pure h₂ ⟨congrArg₂ (· + ·) hxy.1 hxy'.1, .cons (hxy.2.imp hw₂.2) hxy'.2⟩

end Chunk

end MeaningGraph
