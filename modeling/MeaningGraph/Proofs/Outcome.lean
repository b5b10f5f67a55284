/-
# Outcomes of operations that can fail

An operation on a state answers or fails, and leaves a state behind in both cases.  What is said about
it here has the form

    Keeps R Q s r      r is the outcome from state s

for a relation `R` between states, which has to hold between `s` and the state left behind whether or
not the operation failed, and a property `Q` of the answer and the state that comes with it.  When `R` is
transitive, `Keeps` is composed along `>>=` (`Keeps.bind`); an operation made of such parts needs no
look at its failures.  Where nothing is said of the answer, `Within R x` says the same of an operation
from every state.

An answer at the end of a chain comes from answers at all its steps (`steps_of_ok`).  The other way about, a
chain answers when its steps do, each from the states that the ones before can leave: `Attains R Q s r` is
`Keeps R Q s r` with an answer.
-/
import Mathlib.Order.Defs.Unbundled

namespace MeaningGraph.Outcome

variable {ε σ τ α β : Type}

/-! ## Without state -/

theorem ok_of_bind {x : Except ε α} {f : α → Except ε β} {b : β} (h : (x >>= f) = .ok b) :
    ∃ a, x = .ok a ∧ f a = .ok b := by
  cases x with
  | error e => cases h
  | ok a => exact ⟨a, rfl, h⟩

theorem bind_of_ok {x : Except ε α} {f : α → Except ε β} {a : α} (h : x = .ok a) : (x >>= f) = f a := by
  rw [h]
  rfl

theorem foldlM_keeps {step : σ → α → Except ε σ} {P : σ → Prop}
    (hstep : ∀ s a s', P s → step s a = .ok s' → P s') {as : List α} {s s' : σ} (hs : P s)
    (h : as.foldlM step s = .ok s') : P s' := by
  induction as generalizing s with
  | nil =>
    cases h
    exact hs
  | cons a as ih =>
    rw [List.foldlM_cons] at h
    obtain ⟨s₁, h₁, h⟩ := ok_of_bind h
    exact ih (hstep s a s₁ hs h₁) h

/-! ## With state -/

/-- The state that an operation leaves behind. -/
def state : EStateM.Result ε σ α → σ
  | .ok _ s => s
  | .error _ s => s

/-- The state left behind is related to `s`, and an answer has the property `Q` there. -/
def Keeps (R : σ → σ → Prop) (Q : α → σ → Prop) (s : σ) : EStateM.Result ε σ α → Prop
  | .ok a s' => R s s' ∧ Q a s'
  | .error _ s' => R s s'

variable {R : σ → σ → Prop} {Q : α → σ → Prop} {s : σ}

theorem Keeps.state {r : EStateM.Result ε σ α} (h : Keeps R Q s r) : R s (state r) := by
  cases r with
  | ok a s' => exact h.1
  | error e s' => exact h

theorem keeps_of_state {r : EStateM.Result ε σ α} (h : R s (state r))
    (hQ : ∀ a s', r = .ok a s' → Q a s') : Keeps R Q s r := by
  cases r with
  | ok a s' => exact ⟨h, hQ a s' rfl⟩
  | error e s' => exact h

theorem state_bind_pure (x : EStateM ε σ α) (f : α → β) (s : σ) :
    state ((x >>= fun a => pure (f a)) s) = state (x s) := by
  change state (EStateM.bind x _ s) = state (x s)
  unfold EStateM.bind
  cases x s <;> rfl

theorem Keeps.of_ok {r : EStateM.Result ε σ α} {a : α} {s' : σ} (h : Keeps R Q s r)
    (hr : r = .ok a s') : R s s' ∧ Q a s' := by
  subst hr
  exact h

theorem Keeps.after {r : EStateM.Result ε σ α} {s₀ : σ}
    (trans : ∀ {s₁ s₂ s₃}, R s₁ s₂ → R s₂ s₃ → R s₁ s₃) (hR : R s₀ s) (h : Keeps R Q s r) :
    Keeps R Q s₀ r := by
  cases r with
  | ok a s' => exact ⟨trans hR h.1, h.2⟩
  | error e s' => exact trans hR h

theorem Keeps.bind {P : β → σ → Prop} {x : EStateM ε σ α} {f : α → EStateM ε σ β}
    (trans : ∀ {s₁ s₂ s₃}, R s₁ s₂ → R s₂ s₃ → R s₁ s₃) (hx : Keeps R Q s (x s))
    (hf : ∀ a s', R s s' → Q a s' → Keeps R P s' (f a s')) : Keeps R P s ((x >>= f) s) := by
  change Keeps R P s (EStateM.bind x f s)
  unfold EStateM.bind
  cases hr : x s with
  | error e s' =>
    rw [hr] at hx
    exact hx
  | ok a s' =>
    rw [hr] at hx
    exact .after trans hx.1 (hf a s' hx.1 hx.2)

/-! ## Success -/

/-- There is an answer; the state left behind is related to `s`, and the answer has the property `Q` there. -/
def Attains (R : σ → σ → Prop) (Q : α → σ → Prop) (s : σ) (r : EStateM.Result ε σ α) : Prop :=
  ∃ a s', r = .ok a s' ∧ R s s' ∧ Q a s'

namespace Attains

variable {P : β → σ → Prop} {x : EStateM ε σ α} {f : α → EStateM ε σ β}

theorem pure [Std.Refl R] {a : α} (hQ : Q a s) : Attains R Q s ((pure a : EStateM ε σ α) s) :=
  ⟨a, s, rfl, refl_of R s, hQ⟩

theorem bind [IsTrans σ R] (hx : Attains R Q s (x s))
    (hf : ∀ a s', R s s' → Q a s' → Attains R P s' (f a s')) : Attains R P s ((x >>= f) s) := by
  obtain ⟨a, s₁, hx, hR, hQ⟩ := hx
  obtain ⟨b, s₂, hf, hR', hP⟩ := hf a s₁ hR hQ
  refine ⟨b, s₂, ?_, trans_of R hR hR', hP⟩
  change EStateM.bind x f s = .ok b s₂
  unfold EStateM.bind
  rw [hx]
  exact hf

end Attains

/-! ## From every state -/

/-- The state left behind is related to the one before, wherever the operation starts. -/
def Within (R : σ → σ → Prop) (x : EStateM ε σ α) : Prop :=
  ∀ s, R s (state (x s))

namespace Within

variable {x : EStateM ε σ α} {f : α → EStateM ε σ β}

theorem pure [Std.Refl R] (a : α) : Within R (pure a : EStateM ε σ α) := by
  intro s
  exact refl_of R s

theorem get [Std.Refl R] : Within R (get : EStateM ε σ σ) := by
  intro s
  exact refl_of R s

theorem bind [IsTrans σ R] (hx : Within R x) (hf : ∀ a, Within R (f a)) : Within R (x >>= f) := by
  intro s
  have hs := hx s
  change R s (state (EStateM.bind x f s))
  unfold EStateM.bind
  cases hr : x s with
  | error e t =>
    rw [hr] at hs
    exact hs
  | ok a t =>
    rw [hr] at hs
    exact trans_of R hs (hf a t)

theorem of_ok {s t : σ} {a : α} (h : Within R x) (hx : x s = .ok a t) : R s t := by
  have hs := h s
  rw [hx] at hs
  exact hs

end Within

theorem attains_of_within {x : EStateM ε σ α} (hx : Within R x) {a : α} {s' : σ} (h : x s = .ok a s')
    (hQ : Q a s') : Attains R Q s (x s) :=
  ⟨a, s', h, hx.of_ok h, hQ⟩

/-! ## Answers -/

/-- What answers at the end of a chain answers at each step. -/
theorem steps_of_ok {x : EStateM ε σ α} {f : α → EStateM ε σ β} {s' : σ} {b : β}
    (h : (x >>= f) s = .ok b s') : ∃ a t, x s = .ok a t ∧ f a t = .ok b s' := by
  change EStateM.bind x f s = .ok b s' at h
  unfold EStateM.bind at h
  cases hx : x s with
  | error e t =>
    rw [hx] at h
    cases h
  | ok a t =>
    rw [hx] at h
    exact ⟨a, t, rfl, h⟩

/-- What fails at the end of a chain fails at one of its steps. -/
theorem error_of_bind {x : EStateM ε σ α} {f : α → EStateM ε σ β} {s' : σ} {e : ε}
    (h : (x >>= f) s = .error e s') : x s = .error e s' ∨ ∃ a t, x s = .ok a t ∧ f a t = .error e s' := by
  change EStateM.bind x f s = .error e s' at h
  unfold EStateM.bind at h
  cases hx : x s with
  | error e' t =>
    rw [hx] at h
    cases h
    exact .inl rfl
  | ok a t =>
    rw [hx] at h
    exact .inr ⟨a, t, rfl, h⟩

def answer? : EStateM.Result ε σ α → Option α
  | .ok a _ => some a
  | .error _ _ => none

theorem exists_of_answer? {r : EStateM.Result ε σ α} {a : α} (h : answer? r = some a) :
    ∃ t, r = .ok a t := by
  cases r with
  | ok b t =>
    cases h
    exact ⟨t, rfl⟩
  | error e t => cases h

theorem eq_of_answer? {r : EStateM.Result ε σ α} {a : α} (h : answer? r = some a) : r = .ok a (state r) := by
  cases r with
  | ok b t =>
    cases h
    rfl
  | error e t => cases h

def error? : EStateM.Result ε σ α → Option ε
  | .ok _ _ => none
  | .error e _ => some e

theorem eq_of_error? {r : EStateM.Result ε σ α} {e : ε} (h : error? r = some e) : r = .error e (state r) := by
  cases r with
  | ok a t => cases h
  | error e' t =>
    cases h
    rfl

theorem bind_eq_of_ok {x : EStateM ε σ α} {f : α → EStateM ε σ β} {s' : σ} {a : α}
    (h : x s = .ok a s') : (x >>= f) s = f a s' := by
  change EStateM.bind x f s = f a s'
  unfold EStateM.bind
  rw [h]

theorem bind_congr {x y : EStateM ε σ α} {f g : α → EStateM ε σ β} (hx : x s = y s)
    (hf : ∀ a s', y s = .ok a s' → f a s' = g a s') : (x >>= f) s = (y >>= g) s := by
  change EStateM.bind x f s = EStateM.bind y g s
  unfold EStateM.bind
  rw [hx]
  cases hy : y s with
  | ok a s' => exact hf a s' hy
  | error e s' => rfl

theorem bind_eq_of_error {x : EStateM ε σ α} {f : α → EStateM ε σ β} {s' : σ} {e : ε}
    (h : x s = .error e s') : (x >>= f) s = .error e s' := by
  change EStateM.bind x f s = _
  unfold EStateM.bind
  rw [h]

end MeaningGraph.Outcome
