/-
# Two outcomes side by side

Two runs of one operation from different states are compared through a world `w` that says what the two
runs have in common, such as which machine of the one plays the part of which machine of the other.
Worlds grow: a machine made in both runs adds a pair.

    Agree S E V w r₁ r₂

says that both outcomes are answers or both are failures, overflows or not; that after answers some later
world relates the states by `S` and the answers by `V`; and that after failures the states are still related
by `E`.  What holds in a world holds in every later one, so `Agree` is composed along `>>=` (`Agree.bind`).
-/
import Mathlib.Order.Lattice
import MeaningGraph.Proofs.Outcome
import MeaningGraph.Rule.Basic

namespace MeaningGraph.Outcome

variable {W σ τ α β : Type} [Preorder W]

/-- Two outcomes agree. -/
def Agree (S : W → σ → σ → Prop) (E : σ → σ → Prop) (V : W → α → α → Prop) (w : W) :
    EStateM.Result Error σ α → EStateM.Result Error σ α → Prop
  | .ok a s, .ok b t => ∃ w', w ≤ w' ∧ S w' s t ∧ V w' a b
  | .error e s, .error e' t => (e = .overflow ↔ e' = .overflow) ∧ E s t
  | _, _ => False

variable {S : W → σ → σ → Prop} {E : σ → σ → Prop} {V V' : W → α → α → Prop} {w w' : W}
  {r₁ r₂ : EStateM.Result Error σ α} {s t : σ}

theorem Agree.ok {a b : α} (hS : S w s t) (hV : V w a b) :
    Agree S E V w (.ok a s : EStateM.Result Error σ α) (.ok b t) :=
  ⟨w, le_refl w, hS, hV⟩

theorem Agree.pure {a b : α} (hS : S w s t) (hV : V w a b) :
    Agree S E V w ((pure a : EStateM Error σ α) s) ((pure b : EStateM Error σ α) t) :=
  .ok hS hV

theorem Agree.of_le (h : Agree S E V w' r₁ r₂) (hle : w ≤ w') : Agree S E V w r₁ r₂ := by
  cases r₁ <;> cases r₂
  · obtain ⟨w'', hw, hS, hV⟩ := h
    exact ⟨w'', hle.trans hw, hS, hV⟩
  all_goals exact h

theorem Agree.mono (h : Agree S E V w r₁ r₂) (hV : ∀ w' a b, w ≤ w' → V w' a b → V' w' a b) :
    Agree S E V' w r₁ r₂ := by
  cases r₁ <;> cases r₂
  · obtain ⟨w', hw, hS, hab⟩ := h
    exact ⟨w', hw, hS, hV w' _ _ hw hab⟩
  all_goals exact h

theorem Agree.bind {V' : W → β → β → Prop} {x y : EStateM Error σ α} {f g : α → EStateM Error σ β}
    (h : Agree S E V w (x s) (y t))
    (hf : ∀ w' a b s' t', w ≤ w' → S w' s' t' → V w' a b → Agree S E V' w' (f a s') (g b t')) :
    Agree S E V' w ((x >>= f) s) ((y >>= g) t) := by
  change Agree S E V' w (EStateM.bind x f s) (EStateM.bind y g t)
  unfold EStateM.bind
  cases hx : x s <;> cases hy : y t <;> rw [hx, hy] at h
  · obtain ⟨w', hw, hS, hV⟩ := h
    exact (hf w' _ _ _ _ hw hS hV).of_le hw
  · exact h.elim
  · exact h.elim
  · exact h

theorem Agree.onPart {S' : W → τ → τ → Prop} {E' : τ → τ → Prop} {V' : W → α → α → Prop}
    {i j : σ → τ} {x y : EStateM Error σ α} (h : Agree S E V w (x s) (y t))
    (hS : ∀ w' a b, w ≤ w' → S w' a b → S' w' (i a) (j b)) (hE : ∀ a b, E a b → E' (i a) (j b))
    (hV : ∀ w' a b, w ≤ w' → V w' a b → V' w' a b) :
    Agree S' E' V' w (Rule.onPart i x s) (Rule.onPart j y t) := by
  unfold Rule.onPart
  cases hx : x s <;> cases hy : y t <;> rw [hx, hy] at h
  · obtain ⟨w', hw, hst, hab⟩ := h
    exact ⟨w', hw, hS w' _ _ hw hst, hV w' _ _ hw hab⟩
  · exact h.elim
  · exact h.elim
  · exact ⟨h.1, hE _ _ h.2⟩

/-- If one of two outcomes that agree is an answer, so is the other. -/
theorem Agree.of_ok {a : α} {s' : σ} (h : Agree S E V w (.ok a s' : EStateM.Result Error σ α) r₂) :
    ∃ b t' w', r₂ = .ok b t' ∧ w ≤ w' ∧ S w' s' t' ∧ V w' a b := by
  cases r₂ with
  | ok b t' =>
    obtain ⟨w', hw, hS, hV⟩ := h
    exact ⟨b, t', w', rfl, hw, hS, hV⟩
  | error e t' => exact h.elim

theorem Agree.states (h : Agree S E V w r₁ r₂) {P : σ → σ → Prop} (hS : ∀ w' s t, S w' s t → P s t)
    (hE : ∀ s t, E s t → P s t) : P (state r₁) (state r₂) := by
  cases r₁ <;> cases r₂
  · obtain ⟨w', -, hst, -⟩ := h
    exact hS w' _ _ hst
  · exact h.elim
  · exact h.elim
  · exact hE _ _ h.2

end MeaningGraph.Outcome
