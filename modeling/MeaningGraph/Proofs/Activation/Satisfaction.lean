/-
# What is satisfied is reported

Whether a matrix is satisfied depends on its slots alone, and nothing touches the slots of a matrix but the offers
made to it.  An iteration takes the answer of each matrix when all active machines have been offered to it, so that
answer is good to the end of the iteration:

    offer to m₁   offer to m₂   …   activate      stop?            messages
         │             │                            │                 │
         └─────────────┴──── satisfied or not ──────┴─────────────────┘

When the last iteration is over, its answers are those of the matrices that the run leaves behind.  So the loop has
stopped for a satisfied matrix exactly when there is one, for whatever reason it might have stopped otherwise, and
the messages are those of the satisfied matrices, in their order.
-/
import MeaningGraph.Proofs.Activation.Rounds
import MeaningGraph.Proofs.Activation.Saturation

namespace MeaningGraph

open Outcome (steps_of_ok answer? exists_of_answer?)

namespace Construction

/-- The rule is one of a satisfied matrix. -/
def isSatisfied : Construction → Bool
  | .avm r => r.avm.isSatisfied
  | _ => false

theorem isSome_message? (c : Construction) (g : Graph) : (Rule.message? c g).isSome = c.isSatisfied := by
  cases c with
  | avm r =>
    change (if r.avm.isSatisfied then some (Message.mk r.name (r.avm.toTable g)) else none).isSome =
      r.avm.isSatisfied
    cases r.avm.isSatisfied <;> rfl
  | append r => rfl
  | verb r => rfl
  | trigger r => rfl

theorem exists_eq_map {α : Type} {f : α → Construction} {cs : List Construction} (h : ∀ c ∈ cs, ∃ r, c = f r) :
    ∃ rs : List α, cs = rs.map f := by
  have hrange : cs ∈ {cs | ∀ c ∈ cs, c ∈ Set.range f} := fun c hc =>
    let ⟨r, hr⟩ := h c hc
    ⟨r, hr.symm⟩
  rw [← Set.range_list_map] at hrange
  obtain ⟨rs, hrs⟩ := hrange
  exact ⟨rs, hrs.symm⟩

theorem filterMap_message? (matrices : List AvmRule) (g : Graph) :
    (matrices.map avm).filterMap (fun c => Rule.message? c g) =
      (matrices.filter (·.avm.isSatisfied)).map fun r => ⟨r.name, r.avm.toTable g⟩ := by
  rw [List.filterMap_map, ← List.filterMap_eq_map, List.filterMap_filter]
  rfl

end Construction

namespace RuleSet

theorem ofKind_extend (rules : RuleSet Construction) (cs : List Construction) (k : RuleKind) :
    (rules.extend cs).ofKind k = rules.ofKind k ++ cs.filter (Rule.kind · = k) := by
  induction cs generalizing rules with
  | nil => exact (List.append_nil _).symm
  | cons c cs ih =>
    refine (ih (rules.push c)).trans ?_
    rw [ofKind_push, List.append_assoc, List.filter_cons]
    by_cases hkind : Rule.kind c = k <;> simp [hkind]

theorem ofKind_ofList (cs : List Construction) (k : RuleKind) :
    (ofList cs).ofKind k = cs.filter (Rule.kind · = k) := by
  refine (ofKind_extend empty cs k).trans ?_
  cases k <;> rfl

end RuleSet

namespace Activation

variable {o : Options} {s t : Session Construction} {c c' : Construction} {l l' : Lexicon}

/-! ## One iteration -/

theorem offerAll_satisfied {answer : Nat × Bool} (h : offerAll (c, l) = .ok answer (c', l')) :
    answer.2 = c'.isSatisfied := by
  obtain ⟨_, ⟨c₁, l₁⟩, -, h⟩ := steps_of_ok (x := offerEach l.order) h
  cases h
  exact c'.isSome_message? l'.graph

theorem forEach_offerAll_satisfied {rs rs' : List Construction} {answers : List (Nat × Bool)}
    (h : RulesM.forEach offerAll rs l = .ok answers (rs', l')) :
    answers.any (·.2) = rs'.any Construction.isSatisfied := by
  induction rs generalizing l answers rs' with
  | nil =>
    cases h
    rfl
  | cons c rs ih =>
    obtain ⟨a, c', l₁, as, cs, l₂, hc, hrest, rfl, heq⟩ := RulesM.forEach_cons_ok h
    cases heq
    rw [List.any_cons, List.any_cons, offerAll_satisfied hc, ih hrest]

/-- An iteration tells whether some matrix is satisfied when it is over. -/
theorem iterate_satisfied {x : Iteration × Bool} (h : iterate o s = .ok x t) :
    x.2 = t.rules.avm.any Construction.isSatisfied := by
  obtain ⟨_, _, _, _, _, filled, avm, _, _, _, -, -, hoffer, -, rfl, rfl⟩ := iterate_ok h
  exact forEach_offerAll_satisfied hoffer

theorem Rounds.satisfied {rounds : List (Round Construction)} {r : Round Construction}
    (h : Rounds o s rounds t) (hr : rounds.getLast? = some r) :
    r.satisfied = t.rules.avm.any Construction.isSatisfied := by
  induction h with
  | nil s => cases hr
  | cons first rest ih =>
    cases rest with
    | nil s =>
      cases hr
      exact iterate_satisfied first
    | cons _ _ => exact ih hr

/-! ## The run -/

theorem any_isSatisfied_iff (matrices : List AvmRule) :
    (matrices.map Construction.avm).any Construction.isSatisfied = true ↔
      ∃ r ∈ matrices, r.avm.isSatisfied = true := by
  rw [List.any_map, List.any_eq_true]
  rfl

/-- A run has the matrix rules it was given, in their order, with whatever they were filled with. -/
theorem exists_matrices {cs : List Construction} (h : Session.Leads ⟨l, .ofList cs⟩ s) :
    ∃ matrices : List AvmRule, s.rules.avm = matrices.map Construction.avm ∧
      s.rules.avm.map Construction.program =
        (cs.filter (Rule.kind · = .avm)).map Construction.program := by
  have hsorted : s.rules.Sorted := (RuleSet.sorted_ofList cs).of_program h.program
  have havm : ∀ c ∈ s.rules.avm, ∃ r, c = Construction.avm r := fun c hc =>
    Construction.exists_of_kind_avm (hsorted .avm c hc)
  obtain ⟨matrices, hmatrices⟩ := Construction.exists_eq_map havm
  refine ⟨matrices, hmatrices, ?_⟩
  rw [← RuleSet.ofKind_ofList]
  exact congrArg RuleSet.avm h.program

/-- Where the iteration limit allows an iteration, a run stops for a satisfied matrix exactly when some matrix is
satisfied in the end.  Its messages are those of the plugin machines and then, in the order of the rules, one for
each matrix that is satisfied in the end, and none for the others. -/
theorem avmSatisfied_iff_reported (cs : List Construction) (l : Lexicon) (o : Options) (hmax : 1 ≤ o.maxIterations)
    (chunks : List (List MachineId)) (outcome : Outcome) (s : Session Construction)
    (hrun : run o chunks ⟨l, .ofList cs⟩ = .ok outcome s) :
    ∃ matrices : List AvmRule, s.rules.avm = matrices.map Construction.avm ∧
      s.rules.avm.map Construction.program =
        (cs.filter (Rule.kind · = .avm)).map Construction.program ∧
      (outcome.stop = .avmSatisfied ↔ ∃ r ∈ matrices, r.avm.isSatisfied = true) ∧
      outcome.messages =
        ((pluginMachines s.lexicon).filterMap fun (id, call) => call.message? s.lexicon.graph id) ++
          (matrices.filter (·.avm.isSatisfied)).map fun r => ⟨r.name, r.avm.toTable s.lexicon.graph⟩ := by
  obtain ⟨matrices, hmatrices, hprogram⟩ := exists_matrices ((within_run o chunks).of_ok hrun)
  obtain ⟨s₀, rounds, -, hrounds, hends, -, hmessages⟩ := run_rounds hrun
  obtain ⟨r, hr⟩ : ∃ r, rounds.getLast? = some r :=
    ⟨_, List.getLast?_eq_some_getLast (hends.ne_nil hmax)⟩
  refine ⟨matrices, hmatrices, hprogram, ?_, ?_⟩
  · rw [hends.satisfied_iff hr, hrounds.satisfied hr, hmatrices, any_isSatisfied_iff]
  · rw [hmessages, messages, hmatrices, Construction.filterMap_message?]

/-- A matrix for a train, and one for a train with its fare. -/
def fares : List Construction :=
  [.avm ⟨"fare", { slots := [{ name := "vehicle", matcher := .exact "train", kind := .required },
      { name := "price", matcher := .exact "fare", kind := .required }] }⟩,
    .avm ⟨"ride", { slots := [{ name := "vehicle", matcher := .exact "train", kind := .required },
      { name := "delay", matcher := .exact "delay", kind := .negative }] }⟩]

/-- There is a train, but no fare: both matrices take it, and one is satisfied and reported. -/
theorem avmSatisfied_iff_reported_yard :
    ∃ outcome s, run {} [[⟨2, 1⟩], [⟨3, 1⟩]] ⟨yard, .ofList fares⟩ = .ok outcome s ∧
      outcome.iterations = [⟨2, 0, 2, 0, 2⟩] ∧ outcome.stop = .avmSatisfied ∧
      outcome.messages = [⟨"ride", .ofList [("vehicle", "train")]⟩] ∧
      ∃ matrices : List AvmRule, s.rules.avm = matrices.map Construction.avm ∧
        ∃ r ∈ matrices, r.avm.isSatisfied = true := by
  have hanswer : (answer? (run {} [[⟨2, 1⟩], [⟨3, 1⟩]] ⟨yard, .ofList fares⟩)).map
      (fun outcome => (outcome.iterations, outcome.stop, outcome.messages)) =
        some ([⟨2, 0, 2, 0, 2⟩], .avmSatisfied, [⟨"ride", .ofList [("vehicle", "train")]⟩]) := by
    decide +kernel
  obtain ⟨outcome, houtcome, heq⟩ := Option.map_eq_some_iff.1 hanswer
  obtain ⟨hiterations, hrest⟩ := Prod.mk.inj heq
  obtain ⟨hstop, hmessages⟩ := Prod.mk.inj hrest
  obtain ⟨s, hrun⟩ := exists_of_answer? houtcome
  obtain ⟨matrices, hmatrices, -, hsatisfied, -⟩ :=
    avmSatisfied_iff_reported fares yard {} (by decide) _ outcome s hrun
  exact ⟨outcome, s, hrun, hiterations, hstop, hmessages, matrices, hmatrices, hsatisfied.1 hstop⟩

end Activation

end MeaningGraph
