/-
# The main loop, step by step

The phases of an iteration work on the rules of one kind each; `onKind` is the one form behind the three.
`saturate_succ` takes one iteration off the loop: the iteration runs, and `proceed` decides from its
counters whether the loop goes on (`stop?_eq_none`) or why it stops (`stop?_eq_some`).
-/
import MeaningGraph.Activation.Run
import MeaningGraph.Proofs.Rule.Acts

namespace MeaningGraph

open Outcome (steps_of_ok bind_eq_of_ok)

/-! ## Rules by kind -/

namespace RuleSet

variable {ρ : Type} {rules : RuleSet ρ} {k k' : RuleKind} {rs : List ρ}

/-- The rules of one kind. -/
def ofKind (rules : RuleSet ρ) : RuleKind → List ρ
  | .chunk => rules.chunk
  | .semantic => rules.semantic
  | .avm => rules.avm

/-- The set with other rules of one kind. -/
def put (rules : RuleSet ρ) (rs : List ρ) : RuleKind → RuleSet ρ
  | .chunk => { rules with chunk := rs }
  | .semantic => { rules with semantic := rs }
  | .avm => { rules with avm := rs }

theorem mem_toList_iff {r : ρ} : r ∈ rules.toList ↔ ∃ k, r ∈ rules.ofKind k := by
  rw [toList, List.mem_append, List.mem_append]
  constructor
  · rintro ((h | h) | h)
    · exact ⟨.chunk, h⟩
    · exact ⟨.semantic, h⟩
    · exact ⟨.avm, h⟩
  · rintro ⟨k, h⟩
    cases k with
    | chunk => exact .inl (.inl h)
    | semantic => exact .inl (.inr h)
    | avm => exact .inr h

theorem ofKind_put : (rules.put rs k).ofKind k' = if k' = k then rs else rules.ofKind k' := by
  cases k <;> cases k' <;> rfl

/-- The part of a rule set that no analysis changes. -/
def program (rules : RuleSet Construction) : RuleSet Construction where
  chunk := rules.chunk.map Construction.program
  semantic := rules.semantic.map Construction.program
  avm := rules.avm.map Construction.program

theorem ofKind_program (rules : RuleSet Construction) (k : RuleKind) :
    rules.program.ofKind k = (rules.ofKind k).map Construction.program := by
  cases k <;> rfl

theorem program_put {rules : RuleSet Construction} {rs : List Construction}
    (h : rs.map Construction.program = rules.program.ofKind k) :
    (rules.put rs k).program = rules.program := by
  cases k with
  | chunk => exact congrArg (fun chunk => { rules.program with chunk }) h
  | semantic => exact congrArg (fun semantic => { rules.program with semantic }) h
  | avm => exact congrArg (fun avm => { rules.program with avm }) h

theorem program_ext {rules rules' : RuleSet Construction}
    (h : ∀ k, rules.program.ofKind k = rules'.program.ofKind k) : rules.program = rules'.program := by
  have hc := h .chunk
  have hs := h .semantic
  have ha := h .avm
  simp only [ofKind, program] at hc hs ha
  rw [program, program, hc, hs, ha]

theorem program_reset (rules : RuleSet Construction) : rules.reset.program = rules.program := by
  have hmap : ∀ rs : List Construction,
      (rs.map Rule.reset).map Construction.program = rs.map Construction.program := by
    intro rs
    rw [List.map_map]
    exact List.map_congr_left fun c _ => c.program_reset
  unfold RuleSet.reset RuleSet.program
  simp only [hmap]

end RuleSet

namespace SessionM

variable {ρ α : Type}

/-- Changes the rules of one kind and the lexicon. -/
def onKind (k : RuleKind) (x : RulesM ρ α) : SessionM ρ α := fun s =>
  Rule.onPart (fun (rs, lexicon) => { lexicon, rules := s.rules.put rs k }) x
    (s.rules.ofKind k, s.lexicon)

theorem onLexicon_ok {x : LexiconM α} {a : α} {s s' : Session ρ} (h : onLexicon x s = .ok a s') :
    ∃ l, x s.lexicon = .ok a l ∧ s' = { s with lexicon := l } :=
  Rule.onPart_ok h

theorem onLexicon_of_ok {x : LexiconM α} {a : α} {s : Session ρ} {l : Lexicon}
    (h : x s.lexicon = .ok a l) : onLexicon x s = .ok a { s with lexicon := l } :=
  Rule.onPart_of_ok h

theorem onLexicon_ask_ok {x : Except Error α} {a : α} {s s' : Session ρ}
    (h : onLexicon (Lexicon.ask fun _ => x) s = .ok a s') : x = .ok a ∧ s' = s := by
  obtain ⟨l, hask, rfl⟩ := onLexicon_ok h
  obtain ⟨hx, rfl⟩ := Lexicon.ask_ok hask
  exact ⟨hx, rfl⟩

theorem onLexicon_ask_of_ok {x : Except Error α} {a : α} (h : x = .ok a) (s : Session ρ) :
    onLexicon (Lexicon.ask fun _ => x) s = .ok a s := by
  subst h
  rfl

theorem onKind_ok {k : RuleKind} {x : RulesM ρ α} {a : α} {s s' : Session ρ}
    (h : onKind k x s = .ok a s') :
    ∃ rs l, x (s.rules.ofKind k, s.lexicon) = .ok a (rs, l) ∧ s' = ⟨l, s.rules.put rs k⟩ := by
  obtain ⟨⟨rs, l⟩, hx, hs⟩ := Rule.onPart_ok h
  exact ⟨rs, l, hx, hs⟩

theorem onKind_of_ok {k : RuleKind} {x : RulesM ρ α} {a : α} {s : Session ρ} {rs : List ρ} {l : Lexicon}
    (h : x (s.rules.ofKind k, s.lexicon) = .ok a (rs, l)) :
    onKind k x s = .ok a ⟨l, s.rules.put rs k⟩ :=
  Rule.onPart_of_ok h

end SessionM

/-! ## Rules one after the other -/

namespace RulesM

variable {ρ α : Type} {r r' : ρ} {rs : List ρ} {l l' : Lexicon} {e : Error}

/-- What the rules after the first came to, with the first put before them. -/
def behind {β : Type} (r : ρ) (a : α → β) :
    EStateM.Result Error (List ρ × Lexicon) α → EStateM.Result Error (List ρ × Lexicon) β
  | .error e (rs, l) => .error e (r :: rs, l)
  | .ok u (rs, l) => .ok (a u) (r :: rs, l)

section Each

variable {f : EStateM Error (ρ × Lexicon) α} {a : α}

theorem forEach_cons (h : f (r, l) = .ok a (r', l')) :
    forEach f (r :: rs) l = behind r' (a :: ·) (forEach f rs l') := by
  simp only [forEach, h]
  rcases forEach f rs l' with ⟨as, rs', l''⟩ | ⟨e, rs', l''⟩ <;> rfl

theorem forEach_cons_error (h : f (r, l) = .error e (r', l')) :
    forEach f (r :: rs) l = .error e (r' :: rs, l') := by
  rw [forEach, h]

theorem forEach_cons_ok {as : List α} {t : List ρ × Lexicon} (h : forEach f (r :: rs) l = .ok as t) :
    ∃ a r' l' bs rs' l'', f (r, l) = .ok a (r', l') ∧ forEach f rs l' = .ok bs (rs', l'') ∧
      as = a :: bs ∧ t = (r' :: rs', l'') := by
  cases hf : f (r, l) with
  | error e u =>
    obtain ⟨r', l'⟩ := u
    rw [forEach_cons_error hf] at h
    cases h
  | ok a u =>
    obtain ⟨r', l'⟩ := u
    rw [forEach_cons hf] at h
    cases hrest : forEach f rs l' with
    | error e u =>
      rw [hrest] at h
      cases h
    | ok bs u =>
      obtain ⟨rs', l''⟩ := u
      rw [hrest] at h
      cases h
      exact ⟨a, r', l', bs, rs', l'', rfl, hrest, rfl, rfl⟩

theorem forEach_cons_of_ok {bs : List α} {rs' : List ρ} {l'' : Lexicon}
    (h : f (r, l) = .ok a (r', l')) (hrest : forEach f rs l' = .ok bs (rs', l'')) :
    forEach f (r :: rs) l = .ok (a :: bs) (r' :: rs', l'') := by
  rw [forEach_cons h, hrest]
  rfl

end Each

section First

variable {f : EStateM Error (ρ × Lexicon) (Option α)} {a : α}

theorem firstOf_cons_some (h : f (r, l) = .ok (some a) (r', l')) :
    firstOf f (r :: rs) l = .ok (some a) (r' :: rs, l') := by
  rw [firstOf, h]

theorem firstOf_cons_none (h : f (r, l) = .ok none (r', l')) :
    firstOf f (r :: rs) l = behind r' id (firstOf f rs l') := by
  simp only [firstOf, h]
  rcases firstOf f rs l' with ⟨as, rs', l''⟩ | ⟨e, rs', l''⟩ <;> rfl

theorem firstOf_cons_error (h : f (r, l) = .error e (r', l')) :
    firstOf f (r :: rs) l = .error e (r' :: rs, l') := by
  rw [firstOf, h]

end First

end RulesM

/-! ## The loop -/

namespace Activation

variable {ρ : Type} [Rule ρ]

/-- The number of the first iteration with a plugin machine, after iteration `number`. -/
def pluginAfter (plugin : Option Nat) (number : Nat) (l : Lexicon) : Option Nat :=
  plugin <|> if (pluginMachines l).isEmpty then none else some number

/-- Stops after an iteration, or iterates on. -/
def proceed (o : Options) (left number : Nat) (plugin : Option Nat) (it : Iteration)
    (satisfied grown : Bool) : SessionM ρ (List Iteration × StopReason) :=
  match stop? o it satisfied plugin number grown with
  | some reason => pure ([it], reason)
  | none => saturate o left (number + 1) plugin >>= fun x => pure (it :: x.1, x.2)

theorem saturate_succ (o : Options) (left number : Nat) (plugin : Option Nat) (s : Session ρ) :
    saturate o (left + 1) number plugin s =
      (iterate o >>= fun x => fun s' =>
        proceed o left number (pluginAfter plugin number s'.lexicon) x.1 x.2
          (decide (growth s < growth s')) s') s :=
  rfl

/-! ## Why the loop stops -/

section

variable {o : Options} {it : Iteration} {satisfied grown : Bool} {plugin : Option Nat} {number : Nat}
  {reason : StopReason}

/-- The loop goes on after an iteration that satisfied no matrix, as long as iterations are left after the first
plugin machine, and a rule fired or there was growth. -/
theorem stop?_eq_none (h : stop? o it satisfied plugin number grown = none) :
    satisfied = false ∧ (∀ first, plugin = some first → number - first < o.safetyIterations) ∧
      (0 < it.fired ∨ grown = true) := by
  unfold stop? at h
  split at h
  · cases h
  · rename_i hsatisfied
    split at h
    · cases h
    · rename_i hspent
      split at h
      · cases h
      · rename_i hstill
        refine ⟨Bool.eq_false_iff.2 hsatisfied, ?_, ?_⟩
        · rintro first rfl
          simpa using hspent
        · rcases Nat.eq_zero_or_pos it.fired with hzero | hpos
          · exact .inr (by simpa [hzero] using hstill)
          · exact .inl hpos

theorem stop?_eq_some (h : stop? o it satisfied plugin number grown = some reason) :
    (reason = .avmSatisfied ∧ satisfied = true) ∨
    (reason = .safetyExhausted ∧ satisfied = false ∧
      ∃ first, plugin = some first ∧ o.safetyIterations ≤ number - first) ∨
    (reason = .noGrowth ∧ satisfied = false ∧
      (∀ first, plugin = some first → number - first < o.safetyIterations) ∧
      it.fired = 0 ∧ grown = false) := by
  unfold stop? at h
  split at h
  · rename_i hsatisfied
    cases h
    exact .inl ⟨rfl, hsatisfied⟩
  · rename_i hsatisfied
    have hnot := Bool.eq_false_iff.2 hsatisfied
    split at h
    · rename_i hspent
      cases h
      obtain ⟨first, hfirst, hle⟩ := (Option.any_eq_true _ _).1 hspent
      exact .inr (.inl ⟨rfl, hnot, first, hfirst, of_decide_eq_true hle⟩)
    · rename_i hspent
      split at h
      · rename_i hstill
        cases h
        simp only [Bool.and_eq_true, decide_eq_true_eq, Bool.not_eq_true'] at hstill
        refine .inr (.inr ⟨rfl, hnot, ?_, hstill⟩)
        rintro first rfl
        simpa using hspent
      · cases h

end

theorem iterate_eq (o : Options) :
    iterate (ρ := ρ) o =
      SessionM.onLexicon expandPass >>= fun expanded =>
        SessionM.onKind .semantic (RulesM.each (fire o.maxArity)) >>= fun fired =>
          SessionM.onKind .avm (RulesM.each offerAll) >>= fun filled =>
            SessionM.onLexicon Lexicon.activate >>= fun activated => fun s =>
              .ok (⟨expanded, fired.countP id, filled.foldr (·.1 + ·) 0, activated.length,
                s.lexicon.order.length⟩, filled.any (·.2)) s :=
  rfl

/-- The answer of an iteration comes from answers of its four phases. -/
theorem iterate_ok {o : Options} {s s' : Session ρ} {x : Iteration × Bool}
    (h : iterate o s = .ok x s') :
    ∃ expanded l₁ fired semantic l₂ filled avm l₃ activated l₄,
      expandPass s.lexicon = .ok expanded l₁ ∧
      RulesM.forEach (fire o.maxArity) s.rules.semantic l₁ = .ok fired (semantic, l₂) ∧
      RulesM.forEach offerAll s.rules.avm l₂ = .ok filled (avm, l₃) ∧
      Lexicon.activate l₃ = .ok activated l₄ ∧
      x = (⟨expanded, fired.countP id, filled.foldr (·.1 + ·) 0, activated.length, l₄.order.length⟩,
        filled.any (·.2)) ∧
      s' = ⟨l₄, { s.rules with semantic, avm }⟩ := by
  rw [iterate_eq] at h
  obtain ⟨expanded, s₁, hexpand, h⟩ := steps_of_ok h
  obtain ⟨fired, s₂, hfire, h⟩ := steps_of_ok h
  obtain ⟨filled, s₃, hoffer, h⟩ := steps_of_ok h
  obtain ⟨activated, s₄, hactivate, h⟩ := steps_of_ok h
  cases h
  obtain ⟨l₁, h₁, rfl⟩ := SessionM.onLexicon_ok hexpand
  obtain ⟨semantic, l₂, h₂, rfl⟩ := SessionM.onKind_ok hfire
  obtain ⟨avm, l₃, h₃, rfl⟩ := SessionM.onKind_ok hoffer
  obtain ⟨l₄, h₄, rfl⟩ := SessionM.onLexicon_ok hactivate
  exact ⟨expanded, l₁, fired, semantic, l₂, filled, avm, l₃, activated, l₄, h₁, h₂, h₃, h₄, rfl, rfl⟩

theorem iterate_of_ok {o : Options} {s : Session ρ} {expanded : Nat} {fired : List Bool}
    {filled : List (Nat × Bool)} {activated : List MachineId} {semantic avm : List ρ}
    {l₁ l₂ l₃ l₄ : Lexicon} (h₁ : expandPass s.lexicon = .ok expanded l₁)
    (h₂ : RulesM.forEach (fire o.maxArity) s.rules.semantic l₁ = .ok fired (semantic, l₂))
    (h₃ : RulesM.forEach offerAll s.rules.avm l₂ = .ok filled (avm, l₃))
    (h₄ : Lexicon.activate l₃ = .ok activated l₄) :
    iterate o s =
      .ok (⟨expanded, fired.countP id, filled.foldr (·.1 + ·) 0, activated.length, l₄.order.length⟩,
        filled.any (·.2)) ⟨l₄, { s.rules with semantic, avm }⟩ := by
  rw [iterate_eq]
  refine (bind_eq_of_ok (SessionM.onLexicon_of_ok h₁)).trans ?_
  refine (bind_eq_of_ok (SessionM.onKind_of_ok h₂)).trans ?_
  refine (bind_eq_of_ok (SessionM.onKind_of_ok h₃)).trans ?_
  exact (bind_eq_of_ok (SessionM.onLexicon_of_ok h₄)).trans rfl

theorem reductionBudget_ok_iff {o : Options} {chunks : List (List MachineId)} {budget : Nat} :
    reductionBudget o chunks = .ok budget ↔
      max o.maxIterations 1 * max chunks.flatten.length 1 < wordSize ∧
        max o.maxIterations 1 * max chunks.flatten.length 1 = budget := by
  unfold reductionBudget
  by_cases hfits : max o.maxIterations 1 * max chunks.flatten.length 1 < wordSize
  · rw [if_pos hfits, and_iff_right hfits, Except.ok.injEq]
  · rw [if_neg hfits]
    refine iff_of_false ?_ fun h => hfits h.1
    rintro ⟨⟩

theorem reductionBudget_of_overflow {o : Options} {chunks : List (List MachineId)}
    (h : wordSize ≤ max o.maxIterations 1 * max chunks.flatten.length 1) :
    reductionBudget o chunks = .error .overflow :=
  if_neg (Nat.not_lt.2 h)

theorem run_eq (o : Options) (chunks : List (List MachineId)) :
    run (ρ := ρ) o chunks =
      SessionM.onLexicon (Lexicon.addActive chunks.flatten) >>= fun _ =>
        SessionM.onLexicon (Lexicon.ask fun _ => reductionBudget o chunks) >>= fun budget =>
          SessionM.onKind .chunk (Chunk.reduceAll budget chunks) >>= fun x =>
            saturate o o.maxIterations 1 none >>= fun y => fun s =>
              .ok ⟨x.2, unreduced x.2, messages s, x.1, y.1, y.2⟩ s :=
  rfl

theorem run_of_overflow {o : Options} {chunks : List (List MachineId)} {s : Session ρ} {l : Lexicon}
    (hadd : Lexicon.addActive chunks.flatten s.lexicon = .ok () l)
    (h : wordSize ≤ max o.maxIterations 1 * max chunks.flatten.length 1) :
    run o chunks s = .error .overflow { s with lexicon := l } := by
  rw [run_eq, reductionBudget_of_overflow h]
  exact (bind_eq_of_ok (SessionM.onLexicon_of_ok hadd)).trans (Outcome.bind_eq_of_error rfl)

end Activation

end MeaningGraph
