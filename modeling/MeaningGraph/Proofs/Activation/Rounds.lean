/-
# The rounds of a run

A run that answers has made its iterations one after the other; a `Round` is one of them with the sessions
between which it ran.  `Ends` says when a list of rounds is all that the loop makes:

| the loop ends | after |
| :-- | :-- |
| at its limit | as many rounds as were left |
| for another reason | the first round on which `stop?` gives one |

What a run answers is read off these rounds, for rules of any type.  The number of the first round with a plugin
machine is carried from one iteration to the next; seen from iteration `number` on it is

    plugin.or (firstPlugin number rounds)

and an iteration that is made has a number of at most `first + safetyIterations`.
-/
import MeaningGraph.Proofs.Activation.Steps
import MeaningGraph.Proofs.Lexicon.History
import MeaningGraph.Rule.Scripted

namespace MeaningGraph.Activation

open Outcome (steps_of_ok answer? exists_of_answer?)

variable {ρ : Type}

/-- An iteration: the sessions before and after it, its counters, and whether a matrix was satisfied. -/
structure Round (ρ : Type) where
  before : Session ρ
  counters : Iteration
  satisfied : Bool
  after : Session ρ

namespace Round

/-- At the end of the round some active machine calls a plugin. -/
def callsPlugin (r : Round ρ) : Bool :=
  !(pluginMachines r.after.lexicon).isEmpty

variable [Rule ρ]

/-- Why the loop stops after the round, if it does. -/
def stop? (r : Round ρ) (o : Options) (plugin : Option Nat) (number : Nat) : Option StopReason :=
  Activation.stop? o r.counters r.satisfied (pluginAfter plugin number r.after.lexicon) number
    (growth r.before < growth r.after)

end Round

/-- The number of the first of the rounds at whose end some active machine calls a plugin, the rounds being
numbered from `number` on. -/
def firstPlugin (number : Nat) (rounds : List (Round ρ)) : Option Nat :=
  (rounds.findIdx? Round.callsPlugin).map (· + number)

theorem firstPlugin_cons (number : Nat) (r : Round ρ) (rounds : List (Round ρ)) :
    firstPlugin number (r :: rounds) =
      (if r.callsPlugin then some number else none).or (firstPlugin (number + 1) rounds) := by
  unfold firstPlugin
  rw [List.findIdx?_cons]
  cases r.callsPlugin with
  | true => simp
  | false =>
    rw [if_neg Bool.false_ne_true, if_neg Bool.false_ne_true, Option.map_map]
    refine congrArg (Option.map · _) (funext fun i => ?_)
    exact Nat.add_right_comm i 1 number

theorem or_firstPlugin_cons (plugin : Option Nat) (number : Nat) (r : Round ρ) (rounds : List (Round ρ)) :
    plugin.or (firstPlugin number (r :: rounds)) =
      (pluginAfter plugin number r.after.lexicon).or (firstPlugin (number + 1) rounds) := by
  rw [firstPlugin_cons]
  unfold pluginAfter Round.callsPlugin
  cases plugin <;> cases (pluginMachines r.after.lexicon).isEmpty <;> rfl

variable [Rule ρ]

/-- The rounds lead from the one session to the other, each starting where the one before ended. -/
inductive Rounds (o : Options) : Session ρ → List (Round ρ) → Session ρ → Prop
  | nil (s : Session ρ) : Rounds o s [] s
  | cons {s t u : Session ρ} {it : Iteration} {satisfied : Bool} {rounds : List (Round ρ)}
      (first : iterate o s = .ok (it, satisfied) t) (rest : Rounds o t rounds u) :
      Rounds o s (⟨s, it, satisfied, t⟩ :: rounds) u

/-- These are all the rounds that the loop makes, with `left` iterations left and the next one of the given
number, and this is why it makes no more. -/
inductive Ends (o : Options) : (left number : Nat) → (plugin : Option Nat) → List (Round ρ) → StopReason → Prop
  | limit {number : Nat} {plugin : Option Nat} : Ends o 0 number plugin [] .iterationCap
  | stop {left number : Nat} {plugin : Option Nat} {r : Round ρ} {reason : StopReason}
      (h : r.stop? o plugin number = some reason) : Ends o (left + 1) number plugin [r] reason
  | next {left number : Nat} {plugin : Option Nat} {r : Round ρ} {rounds : List (Round ρ)}
      {reason : StopReason} (h : r.stop? o plugin number = none)
      (rest : Ends o left (number + 1) (pluginAfter plugin number r.after.lexicon) rounds reason) :
      Ends o (left + 1) number plugin (r :: rounds) reason

variable {o : Options} {left number : Nat} {plugin : Option Nat} {r : Round ρ} {rounds : List (Round ρ)}
  {stop : StopReason} {s t : Session ρ} {chunks : List (List MachineId)}

/-! ## The rounds of the loop -/

/-- A loop that answers made rounds until one of them ended it. -/
theorem saturate_ok {its : List Iteration} (h : saturate o left number plugin s = .ok (its, stop) t) :
    ∃ rounds, Rounds o s rounds t ∧ Ends o left number plugin rounds stop ∧
      its = rounds.map (·.counters) := by
  induction left generalizing s number plugin its with
  | zero =>
    cases h
    exact ⟨[], .nil _, .limit, rfl⟩
  | succ left ih =>
    rw [saturate_succ] at h
    obtain ⟨⟨it, satisfied⟩, s₁, hiterate, hproceed⟩ := steps_of_ok h
    change proceed o left number _ it satisfied _ s₁ = _ at hproceed
    unfold proceed at hproceed
    cases hstop : stop? o it satisfied (pluginAfter plugin number s₁.lexicon) number
        (decide (growth s < growth s₁)) with
    | some reason =>
      simp only [hstop] at hproceed
      cases hproceed
      exact ⟨[_], .cons hiterate (.nil _), .stop hstop, rfl⟩
    | none =>
      simp only [hstop] at hproceed
      obtain ⟨⟨its', reason⟩, s₂, hrest, hend⟩ := steps_of_ok hproceed
      cases hend
      obtain ⟨rounds, hrounds, hends, rfl⟩ := ih hrest
      exact ⟨_ :: rounds, .cons hiterate hrounds, .next hstop hends, rfl⟩

/-- What a run does before the loop: it registers the machines of the chunks and reduces these. -/
def seed (o : Options) (chunks : List (List MachineId)) : SessionM ρ (Nat × List (List MachineId)) :=
  SessionM.onLexicon (Lexicon.addActive chunks.flatten) >>= fun _ =>
    SessionM.onLexicon (Lexicon.ask fun _ => reductionBudget o chunks) >>= fun budget =>
      SessionM.onKind .chunk (Chunk.reduceAll budget chunks)

theorem seed_ok {x : Nat × List (List MachineId)} (h : seed o chunks s = .ok x t) :
    ∃ l budget, Lexicon.addActive chunks.flatten s.lexicon = .ok () l ∧ reductionBudget o chunks = .ok budget ∧
      SessionM.onKind .chunk (Chunk.reduceAll budget chunks) { s with lexicon := l } = .ok x t := by
  obtain ⟨_, s₁, hadd, h⟩ := steps_of_ok h
  obtain ⟨budget, s₂, hask, hreduce⟩ := steps_of_ok h
  obtain ⟨l, hregister, rfl⟩ := SessionM.onLexicon_ok hadd
  obtain ⟨hbudget, rfl⟩ := SessionM.onLexicon_ask_ok hask
  exact ⟨l, budget, hregister, hbudget, hreduce⟩

theorem seed_of_ok {x : Nat × List (List MachineId)} {l : Lexicon} {budget : Nat}
    (hadd : Lexicon.addActive chunks.flatten s.lexicon = .ok () l) (hbudget : reductionBudget o chunks = .ok budget)
    (hreduce : SessionM.onKind .chunk (Chunk.reduceAll budget chunks) { s with lexicon := l } = .ok x t) :
    seed o chunks s = .ok x t := by
  refine (Outcome.bind_eq_of_ok (SessionM.onLexicon_of_ok hadd)).trans ?_
  exact (Outcome.bind_eq_of_ok (SessionM.onLexicon_ask_of_ok hbudget _)).trans hreduce

/-- A run that answers seeded the session and made rounds until one of them ended it. -/
theorem run_rounds {outcome : Outcome} (h : run o chunks s = .ok outcome t) :
    ∃ s₀ rounds, seed o chunks s = .ok (outcome.reductions, outcome.chunks) s₀ ∧ Rounds o s₀ rounds t ∧
      Ends o o.maxIterations 1 none rounds outcome.stop ∧
      outcome.iterations = rounds.map (·.counters) ∧ outcome.messages = messages t := by
  rw [run_eq] at h
  obtain ⟨_, s₁, hadd, h⟩ := steps_of_ok h
  obtain ⟨budget, s₂, hask, h⟩ := steps_of_ok h
  obtain ⟨x, s₃, hreduce, h⟩ := steps_of_ok h
  obtain ⟨⟨its, stop⟩, s₄, hsaturate, hend⟩ := steps_of_ok h
  cases hend
  obtain ⟨rounds, hrounds, hends, rfl⟩ := saturate_ok hsaturate
  have hseed : seed o chunks s = .ok x s₃ :=
    (Outcome.bind_eq_of_ok hadd).trans ((Outcome.bind_eq_of_ok hask).trans hreduce)
  exact ⟨s₃, rounds, hseed, hrounds, hends, rfl, rfl⟩

/-! ## Where the rounds end -/

namespace Ends

theorem length_le (h : Ends o left number plugin rounds stop) :
    rounds.length ≤ left ∧ (stop = .iterationCap → rounds.length = left) := by
  induction h with
  | limit => exact ⟨Nat.le_refl _, fun _ => rfl⟩
  | stop h =>
    refine ⟨Nat.succ_le_succ (Nat.zero_le _), ?_⟩
    rintro rfl
    obtain ⟨hreason, -⟩ | ⟨hreason, -⟩ | ⟨hreason, -⟩ := stop?_eq_some h <;> cases hreason
  | next _ _ ih => exact ⟨Nat.succ_le_succ ih.1, fun hstop => congrArg (· + 1) (ih.2 hstop)⟩

theorem ne_nil (h : Ends o left number plugin rounds stop) (hleft : 0 < left) : rounds ≠ [] := by
  rintro rfl
  cases h
  exact Nat.lt_irrefl 0 hleft

/-- After every round but the last a rule had fired or there was growth. -/
theorem progress (h : Ends o left number plugin rounds stop) :
    ∀ r ∈ rounds.dropLast, 0 < r.counters.fired ∨ growth r.before < growth r.after := by
  induction h with
  | limit => exact fun _ hr => (List.not_mem_nil hr).elim
  | stop _ => exact fun _ hr => (List.not_mem_nil hr).elim
  | @next left number plugin r rounds reason h rest ih =>
    have hfirst : 0 < r.counters.fired ∨ growth r.before < growth r.after :=
      (stop?_eq_none h).2.2.imp_right of_decide_eq_true
    cases rounds with
    | nil => exact fun _ hr => (List.not_mem_nil hr).elim
    | cons r' rounds => exact List.forall_mem_cons.2 ⟨hfirst, ih⟩

theorem last (h : Ends o left number plugin rounds stop) (hr : rounds.getLast? = some r) :
    ∃ plugin number, r.stop? o plugin number = some stop ∨
      r.stop? o plugin number = none ∧ stop = .iterationCap := by
  induction h with
  | limit => cases hr
  | stop h =>
    cases hr
    exact ⟨_, _, .inl h⟩
  | @next left number plugin r' rounds reason h rest ih =>
    cases rest with
    | limit =>
      cases hr
      exact ⟨_, _, .inr ⟨h, rfl⟩⟩
    | stop _ => exact ih hr
    | next _ _ => exact ih hr

theorem exists_last (h : Ends o left number plugin rounds stop) (hstop : stop ≠ .iterationCap) :
    ∃ r plugin number, rounds.getLast? = some r ∧ r.stop? o plugin number = some stop := by
  cases hr : rounds.getLast? with
  | none =>
    rw [List.getLast?_eq_none_iff] at hr
    subst hr
    cases h
    exact absurd rfl hstop
  | some r =>
    obtain ⟨plugin, number, hreason | ⟨-, hlimit⟩⟩ := h.last hr
    · exact ⟨r, plugin, number, rfl, hreason⟩
    · exact absurd hlimit hstop

theorem still (h : Ends o left number plugin rounds stop) (hstop : stop = .noGrowth) :
    ∃ r, rounds.getLast? = some r ∧ r.counters.fired = 0 ∧ growth r.after ≤ growth r.before := by
  subst hstop
  obtain ⟨r, plugin, number, hr, hreason⟩ := h.exists_last (by decide)
  obtain ⟨hother, -⟩ | ⟨hother, -⟩ | ⟨-, -, -, hfired, hgrown⟩ := stop?_eq_some hreason
  · cases hother
  · cases hother
  · exact ⟨r, hr, hfired, Nat.le_of_not_lt (of_decide_eq_false hgrown)⟩

theorem satisfied_iff (h : Ends o left number plugin rounds stop) (hr : rounds.getLast? = some r) :
    stop = .avmSatisfied ↔ r.satisfied = true := by
  obtain ⟨plugin, number, hreason | ⟨hnone, rfl⟩⟩ := h.last hr
  · obtain ⟨rfl, hyes⟩ | ⟨rfl, hno, -⟩ | ⟨rfl, hno, -⟩ := stop?_eq_some hreason
    · simp [hyes]
    · simp [hno]
    · simp [hno]
  · simp [(stop?_eq_none hnone).1]

end Ends

/-! ## The first plugin machine -/

/-- The next iteration is allowed: it is not too far behind the first one with a plugin machine. -/
def Allowed (o : Options) (number : Nat) (plugin : Option Nat) : Prop :=
  ∀ first, plugin = some first → first < number ∧ number ≤ first + o.safetyIterations

theorem Allowed.after (h : Allowed o number plugin) {l : Lexicon} {first : Nat}
    (hfirst : pluginAfter plugin number l = some first) :
    first ≤ number ∧ number ≤ first + o.safetyIterations := by
  unfold pluginAfter at hfirst
  cases plugin with
  | some f =>
    cases hfirst
    obtain ⟨hlt, hle⟩ := h first rfl
    exact ⟨Nat.le_of_lt hlt, hle⟩
  | none =>
    split at hfirst
    · cases hfirst
    · cases hfirst
      exact ⟨Nat.le_refl _, Nat.le_add_right _ _⟩

theorem Allowed.next (h : Allowed o number plugin) (hnone : r.stop? o plugin number = none) :
    Allowed o (number + 1) (pluginAfter plugin number r.after.lexicon) := by
  intro first hfirst
  obtain ⟨hle, -⟩ := h.after hfirst
  have hleft := (stop?_eq_none hnone).2.1 first hfirst
  omega

/-- The last round has at most the number of the first one with a plugin machine and the iterations allowed after
it; it has just that number where these are used up. -/
theorem Ends.safety (h : Ends o left number plugin rounds stop) (hallowed : Allowed o number plugin) :
    (∀ first, plugin.or (firstPlugin number rounds) = some first →
      number + rounds.length ≤ first + o.safetyIterations + 1) ∧
    (stop = .safetyExhausted → ∃ first, plugin.or (firstPlugin number rounds) = some first ∧
      number + rounds.length = first + o.safetyIterations + 1) := by
  induction h with
  | @limit number plugin =>
    refine ⟨fun first hfirst => ?_, fun hstop => by cases hstop⟩
    have hle := (hallowed first (hfirst ▸ (Option.or_none).symm)).2
    rw [List.length_nil]
    omega
  | @stop left number plugin r reason h =>
    rw [or_firstPlugin_cons, List.length_singleton]
    change (∀ first, (pluginAfter plugin number _).or none = _ → _) ∧
      (_ → ∃ first, (pluginAfter plugin number _).or none = _ ∧ _)
    rw [Option.or_none]
    refine ⟨fun first hfirst => Nat.succ_le_succ (hallowed.after hfirst).2, ?_⟩
    rintro rfl
    obtain ⟨hother, -⟩ | ⟨-, -, first, hfirst, hspent⟩ | ⟨hother, -⟩ := stop?_eq_some h
    · cases hother
    · obtain ⟨hle, hle'⟩ := hallowed.after hfirst
      exact ⟨first, hfirst, by omega⟩
    · cases hother
  | @next left number plugin r rounds reason h rest ih =>
    rw [or_firstPlugin_cons, List.length_cons, ← Nat.add_assoc, Nat.add_right_comm]
    exact ih (hallowed.next h)

/-! ## The run -/

/-- The rounds keep to the budgets, and the reason for stopping is true of them. -/
structure Accountable (o : Options) (rounds : List (Round ρ)) (stop : StopReason) : Prop where
  limit : rounds.length ≤ o.maxIterations
  limit_reached : stop = .iterationCap → rounds.length = o.maxIterations
  progress : ∀ r ∈ rounds.dropLast, 0 < r.counters.fired ∨ growth r.before < growth r.after
  safety : ∀ first, firstPlugin 1 rounds = some first → rounds.length ≤ first + o.safetyIterations
  safety_reached : stop = .safetyExhausted →
    ∃ first, firstPlugin 1 rounds = some first ∧ rounds.length = first + o.safetyIterations
  still : stop = .noGrowth →
    ∃ r, rounds.getLast? = some r ∧ r.counters.fired = 0 ∧ growth r.after ≤ growth r.before
  satisfied : stop = .avmSatisfied → ∃ r, rounds.getLast? = some r ∧ r.satisfied = true

theorem Ends.accountable (h : Ends o o.maxIterations 1 none rounds stop) : Accountable o rounds stop where
  limit := h.length_le.1
  limit_reached := h.length_le.2
  progress := h.progress
  safety first hfirst := by
    have hle := (h.safety fun _ hf => by cases hf).1 first hfirst
    omega
  safety_reached hstop := by
    obtain ⟨first, hfirst, heq⟩ := (h.safety fun _ hf => by cases hf).2 hstop
    exact ⟨first, hfirst, by omega⟩
  still := h.still
  satisfied hstop := by
    obtain ⟨r, -, -, hr, -⟩ := h.exists_last (by rw [hstop]; decide)
    exact ⟨r, hr, (h.satisfied_iff hr).1 hstop⟩

/-- A run that answers made rounds from the seeded session to the one it leaves, one for each iteration it
counts.  They keep to the budgets: there are no more than the iteration limit allows, nor more than are allowed
after the first at whose end a plugin machine is active; after each but the last a rule had fired or there was
growth.  The reason for stopping is true of them. -/
theorem run_accountable (s : Session ρ) (o : Options) (chunks : List (List MachineId)) (outcome : Outcome)
    (t : Session ρ) (hrun : run o chunks s = .ok outcome t) :
    ∃ s₀ rounds, seed o chunks s = .ok (outcome.reductions, outcome.chunks) s₀ ∧ Rounds o s₀ rounds t ∧
      outcome.iterations = rounds.map (·.counters) ∧ Accountable o rounds outcome.stop := by
  obtain ⟨s₀, rounds, hseed, hrounds, hends, hits, -⟩ := run_rounds hrun
  exact ⟨s₀, rounds, hseed, hrounds, hits, hends.accountable⟩

/-- A train is defined by its track, and a track by its switch; there is a train with both. -/
def siding : Lexicon :=
  Lexicon.empty.replay [.create "train" none, .create "track" none, .create "switch" none,
    .append ⟨0, 1⟩ ⟨1, 1⟩ 1, .append ⟨1, 1⟩ ⟨2, 1⟩ 1, .addStatic [⟨0, 1⟩, ⟨1, 1⟩, ⟨2, 1⟩],
    .create "train" none, .create "track" none, .create "switch" none,
    .append ⟨3, 1⟩ ⟨4, 1⟩ 1, .append ⟨4, 1⟩ ⟨5, 1⟩ 1]

/-- A rule that puts a plugin call beside a train, once. -/
def signals : RuleSet ScriptedRule :=
  .ofList [⟨"signal", .semantic, ["train"], 1,
    some [.position 0, .new "signal" (some (.plugin ⟨"signal", []⟩)) []]⟩]

/-- The call is there after the first iteration, which leaves one more: the switch is drawn in, but not expanded. -/
theorem run_accountable_siding :
    ∃ outcome t s₀ rounds, run { safetyIterations := 1 } [[⟨3, 1⟩]] ⟨siding, signals⟩ = .ok outcome t ∧
      outcome.iterations = [⟨1, 1, 0, 0, 3⟩, ⟨2, 0, 0, 0, 4⟩] ∧ outcome.stop = .safetyExhausted ∧
      Rounds { safetyIterations := 1 } s₀ rounds t ∧ outcome.iterations = rounds.map (·.counters) ∧
      firstPlugin 1 rounds = some 1 ∧ Accountable { safetyIterations := 1 } rounds outcome.stop := by
  have hanswer : (answer? (run { safetyIterations := 1 } [[⟨3, 1⟩]] ⟨siding, signals⟩)).map
      (fun outcome => (outcome.iterations, outcome.stop)) =
        some ([⟨1, 1, 0, 0, 3⟩, ⟨2, 0, 0, 0, 4⟩], .safetyExhausted) := by
    decide +kernel
  obtain ⟨outcome, houtcome, hboth⟩ := Option.map_eq_some_iff.1 hanswer
  obtain ⟨hiterations, hstop⟩ := Prod.mk.inj hboth
  obtain ⟨t, hrun⟩ := exists_of_answer? houtcome
  obtain ⟨s₀, rounds, -, hrounds, hits, haccountable⟩ := run_accountable _ _ _ outcome t hrun
  obtain ⟨first, hfirst, hlength⟩ := haccountable.safety_reached hstop
  have htwo : rounds.length = 2 := by
    rw [← List.length_map (·.counters), ← hits, hiterations]
    rfl
  obtain rfl : first = 1 := by
    change rounds.length = first + 1 at hlength
    omega
  exact ⟨outcome, t, s₀, rounds, hrun, hiterations, hstop, hrounds, hits, hfirst, haccountable⟩

end MeaningGraph.Activation
