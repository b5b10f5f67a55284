/-
# Where the loop stops without growth, nothing is left to do

The loop looks at two counts: how many semantic rules fired, and whether the active machines and filled
slots have become more.  Both only ever grow in an iteration, so an iteration after which they stand still
has registered nothing and filled nothing:

    expand     drew links and set flags; every active machine is expanded now
    fire       tried each arrangement of the active machines on the graph as it is now, without effect
    offer      found no slot that takes an active machine
    activate   found no definition whose arguments are active

This is the state the run ends in, so the same iteration made again from there finds the same, and there is
nothing left to expand.
-/
import MeaningGraph.Proofs.Activation.Settled
import MeaningGraph.Proofs.Lexicon.Growth

namespace MeaningGraph

open Outcome (steps_of_ok bind_eq_of_ok answer? exists_of_answer?)

/-! ## Rules in their places -/

namespace RuleSet

variable {rules rules' : RuleSet Construction}

/-- Each rule stands among those of its kind. -/
def Sorted (rules : RuleSet Construction) : Prop :=
  ∀ k, ∀ c ∈ rules.ofKind k, Rule.kind c = k

theorem ofKind_push (rules : RuleSet Construction) (c : Construction) (k : RuleKind) :
    (rules.push c).ofKind k = rules.ofKind k ++ if Rule.kind c = k then [c] else [] := by
  unfold push
  cases Rule.kind c <;> cases k <;> simp [ofKind]

theorem Sorted.push (h : rules.Sorted) (c : Construction) : (rules.push c).Sorted := by
  intro k d hd
  rw [ofKind_push] at hd
  rcases List.mem_append.1 hd with hd | hd
  · exact h k d hd
  · split at hd
    · rename_i hkind
      rw [List.mem_singleton.1 hd, hkind]
    · cases hd

theorem sorted_ofList (cs : List Construction) : (ofList cs).Sorted := by
  have hextend : ∀ (cs : List Construction) (rules : RuleSet Construction),
      rules.Sorted → (rules.extend cs).Sorted := by
    intro cs
    induction cs with
    | nil => exact fun _ h => h
    | cons c cs ih => exact fun rules h => ih (rules.push c) (h.push c)
  refine hextend cs empty ?_
  intro k c hc
  cases k <;> cases hc

theorem Sorted.of_program (h : rules.Sorted) (hprogram : rules'.program = rules.program) :
    rules'.Sorted := by
  intro k c hc
  have hmem : c.program ∈ rules.program.ofKind k := by
    rw [← hprogram, ofKind_program]
    exact List.mem_map_of_mem hc
  rw [ofKind_program] at hmem
  obtain ⟨d, hd, heq⟩ := List.mem_map.1 hmem
  rw [← c.kind_program, ← heq, d.kind_program, h k d hd]

end RuleSet

theorem Lexicon.Reaches.sound {l l' : Lexicon} (h : l.Reaches l') (hl : l.Sound) : l'.Sound :=
  (h.evolves hl).sound

namespace Activation

open Session (Leads)

variable {s s' : Session Construction} {o : Options} {left number : Nat} {plugin : Option Nat}

/-! ## One iteration -/

/-- Nothing is left to do in the session: no active machine is unexpanded, no definition is activated, no matrix
takes an active machine, and no semantic rule does anything on a sequence of different active machines. -/
structure Saturated (o : Options) (s : Session Construction) : Prop where
  expanded : s.lexicon.unexpanded = []
  activated : Lexicon.activate s.lexicon = .ok [] s.lexicon
  closed : ∀ c ∈ s.rules.avm, Closed c s.lexicon
  idle : ∀ c ∈ s.rules.semantic, Idle o.maxArity c s.lexicon

/-- The counters of an iteration that does nothing. -/
def standstill (l : Lexicon) : Iteration :=
  ⟨0, 0, 0, 0, l.order.length⟩

theorem expandPass_of_expanded {l : Lexicon} (h : l.unexpanded = []) : expandPass l = .ok 0 l := by
  have heach : expandEach l.unexpanded l = .ok () l := by rw [h]; rfl
  refine (bind_eq_of_ok (x := expandEach l.unexpanded) heach).trans ?_
  rw [h]
  rfl

/-- After an iteration without growth in which no rule fired nothing is left to do, and another one does
nothing. -/
theorem saturated_of_iterate {it : Iteration} {satisfied : Bool} (hsound : s.lexicon.Sound)
    (hsorted : s.rules.Sorted) (h : iterate o s = .ok (it, satisfied) s') (hfired : it.fired = 0)
    (hgrowth : growth s' ≤ growth s) :
    Saturated o s' ∧ iterate o s' = .ok (standstill s'.lexicon, satisfied) s' := by
  obtain ⟨expanded, l₁, fired, semantic, l₂, filled, avm, l₃, activated, l₄, hexpand, hfire, hoffer,
    hactivate, hx, rfl⟩ := iterate_ok h
  cases hx
  have hsound₁ : l₁.Sound := (within_expandPass.of_ok hexpand).sound hsound
  obtain ⟨hgrows, hexpanded⟩ := expandPass_ok hsound hexpand
  -- no semantic rule fired, so the lexicon is as the expansion left it
  have hsemantic : ∀ c ∈ s.rules.semantic, Rule.kind c ≠ .avm := by
    intro c hc heq
    rw [hsorted .semantic c hc] at heq
    cases heq
  obtain ⟨rfl, hfireAgain, hidle⟩ := forEach_fire_settled hsemantic hfire hfired
  -- matrices leave it alone, too
  have havm : ∀ c ∈ s.rules.avm, Rule.kind c = .avm := hsorted .avm
  obtain ⟨rfl, hsum⟩ := filledSlots_offerAll havm hoffer
  change l₄.order.length + avm.foldr (Rule.filledSlots · + ·) 0 ≤
    s.lexicon.order.length + s.rules.avm.foldr (Rule.filledSlots · + ·) 0 at hgrowth
  have hlonger := hgrows.order.length_le
  -- so neither expansion nor activation can have added to the order, nor matrices filled slots
  rcases Lexicon.activate_ok hsound₁ hactivate with ⟨rfl, rfl⟩ | hmore
  · have hzero : filled.foldr (·.1 + ·) 0 = 0 := by omega
    obtain ⟨-, hofferAgain, hclosed⟩ := forEach_offerAll_settled havm hoffer hzero
    have hunexpanded : l₄.unexpanded = [] := hexpanded (by omega)
    refine ⟨⟨hunexpanded, hactivate, hclosed, hidle⟩, ?_⟩
    have hagain := iterate_of_ok (s := ⟨l₄, { s.rules with semantic, avm }⟩)
      (expandPass_of_expanded hunexpanded) hfireAgain hofferAgain hactivate
    change fired.countP id = 0 at hfired
    rw [hfired, hzero] at hagain
    exact hagain
  · omega

/-! ## The loop -/

theorem safetyIterations_pos {l : Lexicon}
    (h : ∀ first, pluginAfter plugin number l = some first → number - first < o.safetyIterations)
    (hplugin : (pluginMachines l).isEmpty = false) : 0 < o.safetyIterations := by
  obtain ⟨first, hfirst⟩ : ∃ first, pluginAfter plugin number l = some first := by
    unfold pluginAfter
    rw [hplugin]
    cases plugin with
    | none => exact ⟨number, rfl⟩
    | some first => exact ⟨first, rfl⟩
  exact Nat.zero_lt_of_lt (h first hfirst)

theorem saturate_standstill (h : iterate o s = .ok (standstill s.lexicon, false) s)
    (hsafe : (pluginMachines s.lexicon).isEmpty = false → 0 < o.safetyIterations) (hleft : 0 < left) :
    saturate o left 1 none s = .ok ([standstill s.lexicon], .noGrowth) s := by
  cases left with
  | zero => cases hleft
  | succ left =>
    rw [saturate_succ]
    refine (bind_eq_of_ok h).trans ?_
    have hstop : stop? o (standstill s.lexicon) false (pluginAfter none 1 s.lexicon) 1
        (decide (growth s < growth s)) = some .noGrowth := by
      unfold stop? pluginAfter
      cases hplugin : (pluginMachines s.lexicon).isEmpty with
      | true => simp [standstill]
      | false =>
        have hpos := hsafe hplugin
        simp [standstill]
        omega
    unfold proceed
    simp only [hstop]
    rfl

theorem saturate_noGrowth {its : List Iteration} (hsound : s.lexicon.Sound) (hsorted : s.rules.Sorted)
    (h : saturate o left number plugin s = .ok (its, .noGrowth) s') :
    Saturated o s' ∧ iterate o s' = .ok (standstill s'.lexicon, false) s' ∧
      ((pluginMachines s'.lexicon).isEmpty = false → 0 < o.safetyIterations) ∧ 0 < left := by
  induction left generalizing s number plugin its with
  | zero => cases h
  | succ left ih =>
    rw [saturate_succ] at h
    obtain ⟨⟨it, satisfied⟩, s₁, hiterate, hproceed⟩ := steps_of_ok h
    change proceed o left number _ it satisfied _ s₁ = _ at hproceed
    unfold proceed at hproceed
    cases hstop : stop? o it satisfied (pluginAfter plugin number s₁.lexicon) number
        (decide (growth s < growth s₁)) with
    | some reason =>
      simp only [hstop] at hproceed
      cases hproceed
      obtain ⟨hreason, -⟩ | ⟨hreason, -⟩ | ⟨-, rfl, hsafe, hfired, hgrown⟩ := stop?_eq_some hstop
      · cases hreason
      · cases hreason
      have hgrowth : growth s' ≤ growth s := Nat.le_of_not_lt (of_decide_eq_false hgrown)
      obtain ⟨hsaturated, hagain⟩ := saturated_of_iterate hsound hsorted hiterate hfired hgrowth
      exact ⟨hsaturated, hagain, safetyIterations_pos hsafe, Nat.succ_pos left⟩
    | none =>
      simp only [hstop] at hproceed
      obtain ⟨⟨its', reason⟩, s₂, hrest, hend⟩ := steps_of_ok hproceed
      cases hend
      have hleads : Leads s s₁ := (within_iterate o).of_ok hiterate
      obtain ⟨hsaturated, hagain, hsafe, -⟩ :=
        ih (hleads.lexicon.sound hsound) (hsorted.of_program hleads.program) hrest
      exact ⟨hsaturated, hagain, hsafe, Nat.succ_pos left⟩

/-! ## The run -/

theorem run_ok {chunks : List (List MachineId)} {outcome : Outcome} (h : run o chunks s = .ok outcome s') :
    ∃ s₁ its, Leads s s₁ ∧ max o.maxIterations 1 * max chunks.flatten.length 1 < wordSize ∧
      saturate o o.maxIterations 1 none s₁ = .ok (its, outcome.stop) s' := by
  rw [run_eq] at h
  obtain ⟨_, s₁, hadd, h⟩ := steps_of_ok h
  obtain ⟨budget, s₂, hask, h⟩ := steps_of_ok h
  obtain ⟨x, s₃, hreduce, h⟩ := steps_of_ok h
  obtain ⟨⟨its, stop⟩, s₄, hsaturate, hend⟩ := steps_of_ok h
  cases hend
  have hadds : Leads s s₁ :=
    (Session.within_onLexicon (Lexicon.within_addActive _)).of_ok hadd
  obtain ⟨hbudget, rfl⟩ := SessionM.onLexicon_ask_ok hask
  have hreduces : Leads s₂ s₃ :=
    (Session.within_onKind (Chunk.within_reduceAll _ chunks) .chunk).of_ok hreduce
  exact ⟨s₃, its, trans_of Leads hadds hreduces, (reductionBudget_ok_iff.1 hbudget).1, hsaturate⟩

theorem run_nil {its : List Iteration} {stop : StopReason} (hfits : max o.maxIterations 1 < wordSize)
    (h : saturate o o.maxIterations 1 none s = .ok (its, stop) s') :
    run o [] s = .ok ⟨[], [], messages s', 0, its, stop⟩ s' := by
  rw [run_eq]
  have hadd : SessionM.onLexicon (Lexicon.addActive ([] : List (List MachineId)).flatten) s = .ok () s := rfl
  have hbudget : reductionBudget o [] = .ok (max o.maxIterations 1) :=
    reductionBudget_ok_iff.2 ⟨by simpa using hfits, by simp⟩
  have hask := SessionM.onLexicon_ask_of_ok hbudget s
  have hreduce : SessionM.onKind .chunk (Chunk.reduceAll (max o.maxIterations 1) []) s = .ok (0, []) s := rfl
  refine (bind_eq_of_ok hadd).trans ((bind_eq_of_ok hask).trans ((bind_eq_of_ok hreduce).trans ?_))
  exact (bind_eq_of_ok h).trans rfl

/-- Where a run stops without growth nothing is left to do: no active machine is unexpanded, activating makes
nothing, no matrix takes an active machine, and each semantic rule fails its check on every sequence of
different active machines within the bound, or acts on it without effect.  So the loop, started again with the
same options, makes one iteration in which it counts nothing, and the session stays as it is. -/
theorem saturated_of_noGrowth (cs : List Construction) (l : Lexicon) (hl : l.Reachable) (o : Options)
    (chunks : List (List MachineId)) (outcome : Outcome) (s : Session Construction)
    (hrun : run o chunks ⟨l, .ofList cs⟩ = .ok outcome s) (hstop : outcome.stop = .noGrowth) :
    Saturated o s ∧
    saturate o o.maxIterations 1 none s = .ok ([standstill s.lexicon], .noGrowth) s ∧
    run o [] s = .ok ⟨[], [], messages s, 0, [standstill s.lexicon], .noGrowth⟩ s := by
  obtain ⟨s₁, its, hleads, hfits, hsaturate⟩ := run_ok hrun
  rw [hstop] at hsaturate
  obtain ⟨hsaturated, hiterate, hsafe, hpos⟩ :=
    saturate_noGrowth (hleads.lexicon.sound hl.sound)
      ((RuleSet.sorted_ofList cs).of_program hleads.program) hsaturate
  have hagain := saturate_standstill hiterate hsafe hpos
  have hfits' : max o.maxIterations 1 < wordSize :=
    Nat.lt_of_le_of_lt (Nat.le_mul_of_pos_right _ (Nat.lt_of_lt_of_le Nat.one_pos (Nat.le_max_right _ _))) hfits
  exact ⟨hsaturated, hagain, run_nil hfits' hagain⟩

/-- A lexicon that knows that a train stands on a track, with a train and a track. -/
def yard : Lexicon :=
  Lexicon.empty.replay [.create "train" none, .create "track" none, .append ⟨0, 1⟩ ⟨1, 1⟩ 1,
    .addStatic [⟨0, 1⟩], .create "train" none, .create "track" none]

/-- A rule that puts the track of a train into its partition 2, and a matrix for the price of a ticket. -/
def yardRules : List Construction :=
  [.append { name := "on", modifier := .exact "track", head := .exact "train", partition := 2, semantic := true },
    .avm ⟨"ticket", { slots := [{ name := "price", matcher := .exact "fare", kind := .required }] }⟩]

/-- The train and the track are expanded, the rule fires once, and the second iteration is the last. -/
theorem saturated_of_noGrowth_yard :
    ∃ outcome s, run {} [[⟨2, 1⟩, ⟨3, 1⟩]] ⟨yard, .ofList yardRules⟩ = .ok outcome s ∧
      outcome.iterations = [⟨2, 1, 0, 0, 2⟩, ⟨0, 0, 0, 0, 2⟩] ∧ outcome.stop = .noGrowth ∧
      Saturated {} s ∧
      saturate {} 64 1 none s = .ok ([standstill s.lexicon], .noGrowth) s ∧
      run {} [] s = .ok ⟨[], [], messages s, 0, [standstill s.lexicon], .noGrowth⟩ s := by
  have hanswer : (answer? (run {} [[⟨2, 1⟩, ⟨3, 1⟩]] ⟨yard, .ofList yardRules⟩)).map
      (fun outcome => (outcome.iterations, outcome.stop)) =
        some ([⟨2, 1, 0, 0, 2⟩, ⟨0, 0, 0, 0, 2⟩], .noGrowth) := by
    decide +kernel
  obtain ⟨outcome, houtcome, hboth⟩ := Option.map_eq_some_iff.1 hanswer
  obtain ⟨hiterations, hstop⟩ := Prod.mk.inj hboth
  obtain ⟨s, hrun⟩ := exists_of_answer? houtcome
  exact ⟨outcome, s, hrun, hiterations, hstop,
    saturated_of_noGrowth yardRules yard ⟨_, rfl⟩ {} _ outcome s hrun hstop⟩

end Activation

end MeaningGraph
