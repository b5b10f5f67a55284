/-
# Rules on twins

A rule reads a machine through its name, its control and its links, and these are alike on both sides; so
its check, what it refuses, its last check and its message come out the same for paired sequences.

    append, trigger   the same rule on both sides
    verb              the same up to the states in which its automaton stands
    avm               the same up to the machines in its slots, which are paired
-/
import MeaningGraph.Proofs.Acceptor
import MeaningGraph.Proofs.Rule.Acts
import MeaningGraph.Proofs.Twin.Expand

namespace MeaningGraph

open List (Forall₂)

/-! ## Matchers and automata -/

section Reading

variable {g₁ g₂ : Graph} {a b : MachineId} {v : Pairing} {as bs : List MachineId}

namespace Graph.Paired

theorem accepts_eq (h : Paired v g₁ g₂) (hab : v a b) (m : Matcher) :
    m.accepts g₁ a = m.accepts g₂ b :=
  Matcher.accepts_congr (h.name?_eq hab) (h.control?_eq hab) m

theorem step_eq (h : Paired v g₁ g₂) (hab : v a b) (A : Acceptor) : A.step g₁ a = A.step g₂ b := by
  rw [Acceptor.step, Acceptor.step, Acceptor.opened_congr (h.name?_eq hab) (h.control?_eq hab)]

theorem scan_eq (h : Paired v g₁ g₂) (has : Forall₂ v as bs) (A : Acceptor) :
    A.scan g₁ as = A.scan g₂ bs := by
  induction has generalizing A with
  | nil => rfl
  | cons hab _ ih =>
    rw [Acceptor.scan, Acceptor.scan, h.step_eq hab, ih]

theorem refused?_rel (h : Paired v g₁ g₂) (has : Forall₂ v as bs) (A : Acceptor) :
    Option.Rel (Forall₂ v) (A.refused? g₁ as) (A.refused? g₂ bs) := by
  induction has generalizing A with
  | nil => exact .none
  | @cons a b _ _ hab _ ih =>
    rw [Acceptor.refused?, Acceptor.refused?, h.step_eq hab]
    split
    · exact .some (.cons hab .nil)
    · have hrest := ih (A.step g₂ b)
      generalize Acceptor.refused? g₁ _ (A.step g₂ b) = x at hrest
      generalize Acceptor.refused? g₂ _ (A.step g₂ b) = y at hrest
      cases hrest with
      | some hrest => exact .some (.cons hab hrest)
      | none => exact .none

end Graph.Paired

end Reading

/-! ## What the rules are in twins -/

/-- Slots that differ in the machine they hold at most, and hold paired machines. -/
structure AvmSlot.Twin (v : Pairing) (s₁ s₂ : AvmSlot) : Prop where
  name : s₁.name = s₂.name
  matcher : s₁.matcher = s₂.matcher
  kind : s₁.kind = s₂.kind
  default : s₁.default = s₂.default
  value : Option.Rel v s₁.value s₂.value

theorem AvmSlot.Twin.blank_eq {v : Pairing} {s₁ s₂ : AvmSlot} (h : Twin v s₁ s₂) :
    { s₁ with value := none } = { s₂ with value := none } := by
  rw [h.name, h.matcher, h.kind, h.default]

/-- Matrix rules that differ in the machines in their slots at most. -/
structure AvmRule.Twin (v : Pairing) (r₁ r₂ : AvmRule) : Prop where
  name : r₁.name = r₂.name
  formula : r₁.avm.formula = r₂.avm.formula
  slots : Forall₂ (AvmSlot.Twin v) r₁.avm.slots r₂.avm.slots

/-- Rules that differ in what belongs to a run at most. -/
inductive Construction.Twin (v : Pairing) : Construction → Construction → Prop where
  | append (r : AppendRule) : Twin v (.append r) (.append r)
  | verb {r₁ r₂ : VerbRule} (h : r₁.rest = r₂.rest) : Twin v (.verb r₁) (.verb r₂)
  | trigger (r : TriggerRule) : Twin v (.trigger r) (.trigger r)
  | avm {r₁ r₂ : AvmRule} (h : AvmRule.Twin v r₁ r₂) : Twin v (.avm r₁) (.avm r₂)

theorem AvmRule.Twin.mono {v v' : Pairing} {r₁ r₂ : AvmRule} (h : Twin v r₁ r₂) (hv : v ≤ v') :
    Twin v' r₁ r₂ where
  name := h.name
  formula := h.formula
  slots := h.slots.imp fun _ _ hs => { hs with value := optionRel_imp hs.value hv }

theorem Construction.Twin.mono {v v' : Pairing} {c₁ c₂ : Construction} (h : Twin v c₁ c₂)
    (hv : v ≤ v') : Twin v' c₁ c₂ := by
  cases h with
  | append r => exact .append r
  | verb h => exact .verb h
  | trigger r => exact .trigger r
  | avm h => exact .avm (h.mono hv)

theorem Construction.Twin.program_eq {v : Pairing} {c₁ c₂ : Construction} (h : Twin v c₁ c₂) :
    c₁.program = c₂.program := by
  cases h with
  | append r => rfl
  | trigger r => rfl
  | verb h => exact congrArg Construction.verb h
  | @avm r₁ r₂ h =>
    have hslots := map_eq_of_rel h.slots fun _ _ hs => hs.blank_eq
    change Construction.avm ⟨r₁.name, _, r₁.avm.formula⟩ = .avm ⟨r₂.name, _, r₂.avm.formula⟩
    rw [h.name, h.formula]
    exact congrArg (fun slots => Construction.avm ⟨r₂.name, slots, r₂.avm.formula⟩) hslots

theorem Construction.twin_reset {c₁ c₂ : Construction} (h : c₁.program = c₂.program) (v : Pairing) :
    Twin v (Rule.reset c₁) (Rule.reset c₂) := by
  cases c₁ <;> cases c₂ <;>
    simp only [program, append.injEq, verb.injEq, trigger.injEq, avm.injEq, reduceCtorEq] at h
  · subst h
    exact .append _
  · exact .verb h
  · subst h
    exact .trigger _
  · rename_i r₁ r₂
    -- the same rule with empty slots stands on both sides
    have hsame : AvmRule.Twin v (Rule.reset r₁) (Rule.reset r₁) := by
      refine ⟨rfl, rfl, List.forall₂_same.2 ?_⟩
      intro s hs
      obtain ⟨s, -, rfl⟩ := List.mem_map.1 hs
      exact ⟨rfl, rfl, rfl, rfl, .none⟩
    exact .avm (h ▸ hsame)

/-! ## Matrices -/

namespace AvmSlot.Twin

variable {g₁ g₂ : Graph} {v : Pairing} {a b : MachineId} {s₁ s₂ : AvmSlot}

theorem isFilled_eq (h : Twin v s₁ s₂) : s₁.isFilled = s₂.isFilled :=
  isSome_eq_of_rel h.value

theorem isSatisfied_eq (h : Twin v s₁ s₂) : s₁.isSatisfied = s₂.isSatisfied := by
  rw [isSatisfied, isSatisfied, h.kind, h.isFilled_eq]

theorem takes_eq (h : Twin v s₁ s₂) (hg : Graph.Paired v g₁ g₂) (hab : v a b) :
    s₁.takes g₁ a = s₂.takes g₂ b := by
  rw [takes, takes, h.isFilled_eq, h.matcher, hg.accepts_eq hab]

theorem offer (h : Twin v s₁ s₂) (hg : Graph.Paired v g₁ g₂) (hab : v a b) :
    Twin v (s₁.offer g₁ a) (s₂.offer g₂ b) := by
  unfold AvmSlot.offer
  rw [h.takes_eq hg hab]
  split
  · exact { h with value := .some hab }
  · exact h

theorem text?_eq (h : Twin v s₁ s₂) (hg : Graph.Paired v g₁ g₂) : s₁.text? g₁ = s₂.text? g₂ := by
  have hvalue := h.value
  unfold text?
  generalize s₁.value = x at hvalue
  generalize s₂.value = y at hvalue
  cases hvalue with
  | some hxy => exact hg.name?_eq hxy
  | none => exact h.default

end AvmSlot.Twin

namespace AvmRule.Twin

variable {g₁ g₂ : Graph} {v : Pairing} {a b : MachineId} {r₁ r₂ : AvmRule}

theorem accepts_eq (h : Twin v r₁ r₂) (hg : Graph.Paired v g₁ g₂) (hab : v a b) :
    r₁.avm.accepts g₁ a = r₂.avm.accepts g₂ b :=
  any_eq_of_rel h.slots fun _ _ hs => hs.takes_eq hg hab

theorem filledCount_eq (h : Twin v r₁ r₂) : r₁.avm.filledCount = r₂.avm.filledCount :=
  countP_eq_of_rel h.slots fun _ _ hs => hs.isFilled_eq

theorem isSatisfied_eq (h : Twin v r₁ r₂) : r₁.avm.isSatisfied = r₂.avm.isSatisfied := by
  have hfilled : r₁.avm.isFilled = r₂.avm.isFilled := by
    funext name
    exact any_eq_of_rel h.slots fun _ _ hs => by rw [hs.name, hs.isFilled_eq]
  unfold Avm.isSatisfied
  rw [h.formula, hfilled, all_eq_of_rel h.slots fun _ _ hs => hs.isSatisfied_eq]

theorem toTable_eq (h : Twin v r₁ r₂) (hg : Graph.Paired v g₁ g₂) :
    r₁.avm.toTable g₁ = r₂.avm.toTable g₂ := by
  have hslots := rel_filter (p := fun s => s.kind ≠ .negative) (q := fun s => s.kind ≠ .negative)
    h.slots fun _ _ hs => by rw [hs.kind]
  unfold Avm.toTable
  rw [filterMap_eq_of_rel hslots fun _ _ hs => by rw [hs.text?_eq hg, hs.name]]

theorem fill (h : Twin v r₁ r₂) (hg : Graph.Paired v g₁ g₂) (hab : v a b) :
    (r₁.avm.fill g₁ a).1 = (r₂.avm.fill g₂ b).1 ∧
      Twin v { r₁ with avm := (r₁.avm.fill g₁ a).2 } { r₂ with avm := (r₂.avm.fill g₂ b).2 } := by
  refine ⟨countP_eq_of_rel h.slots fun _ _ hs => hs.takes_eq hg hab, h.name, h.formula, ?_⟩
  exact List.rel_map (fun _ _ hs => hs.offer hg hab) h.slots

end AvmRule.Twin

/-! ## Last checks -/

section LastChecks

variable {g₁ g₂ : Graph} {v : Pairing} {a b : MachineId} {as bs : List MachineId}

theorem AppendRule.roles_paired (r : AppendRule) {c d : MachineId} (hab : v a b) (hcd : v c d) :
    v (r.roles a c).1 (r.roles b d).1 ∧ v (r.roles a c).2 (r.roles b d).2 := by
  unfold AppendRule.roles
  cases r.direction with
  | modifierFirst => exact ⟨hab, hcd⟩
  | headFirst => exact ⟨hcd, hab⟩

namespace Graph.Paired

theorem append_lastCheck_eq (h : Paired v g₁ g₂) (hv : Relator.BiUnique v) (has : Forall₂ v as bs)
    (r : AppendRule) : r.lastCheck g₁ as = r.lastCheck g₂ bs := by
  cases has with
  | nil => rfl
  | cons hab has =>
    cases has with
    | nil => rfl
    | cons hcd has =>
      cases has with
      | cons _ _ => rfl
      | nil =>
        obtain ⟨hmod, hhead⟩ := r.roles_paired hab hcd
        obtain ⟨m₁, m₂, h₁, h₂, halike⟩ := h _ _ hhead
        unfold AppendRule.lastCheck
        simp only [h₁, h₂, Option.any_some]
        rw [decide_eq_decide.2 (Pairing.mem_iff hv hmod (halike.part r.partition)),
          decide_eq_decide.2 (not_congr (Pairing.eq_iff hv hab hcd))]

theorem isOwned_eq (h : Paired v g₁ g₂) (hab : v a b) (r : TriggerRule) :
    r.isOwned g₁ a = r.isOwned g₂ b := by
  have hown : ∀ a b, v a b → r.isOwn g₁ a = r.isOwn g₂ b := fun a b hab => by
    rw [TriggerRule.isOwn, TriggerRule.isOwn, h.control?_eq hab]
  obtain ⟨m₁, m₂, h₁, h₂, halike⟩ := h a b hab
  unfold TriggerRule.isOwned
  rw [h₁, h₂, Option.any_some, Option.any_some, hown a b hab]
  exact congrArg (_ || ·) (halike.any_parents fun c d _ hcd => hown c d hcd)

theorem trigger_lastCheck_eq (h : Paired v g₁ g₂) (has : Forall₂ v as bs) (r : TriggerRule) :
    r.lastCheck g₁ as = r.lastCheck g₂ bs := by
  unfold TriggerRule.lastCheck
  rw [any_eq_of_rel has fun _ _ hab => h.isOwned_eq hab r, isEmpty_eq_of_rel has]

theorem isVerb_eq (h : Paired v g₁ g₂) (hab : v a b) (r : VerbRule) :
    r.isVerb g₁ a = r.isVerb g₂ b := by
  rw [VerbRule.isVerb, VerbRule.isVerb, h.name?_eq hab]

theorem isLinked_eq (h : Paired v g₁ g₂) (hv : Relator.BiUnique v) {x y : Option MachineId}
    (hxy : Option.Rel v x y) (hab : v a b) (r : VerbRule) :
    r.isLinked g₁ x a = r.isLinked g₂ y b := by
  obtain ⟨m₁, m₂, h₁, h₂, halike⟩ := h a b hab
  unfold VerbRule.isLinked
  rw [h₁, h₂, Option.any_some, Option.any_some]
  refine halike.any_parents ?_
  intro c d p hcd
  cases hxy with
  | some hxy =>
    change (c == _ && _) = (d == _ && _)
    rw [beq_eq_beq.2 (Pairing.eq_iff hv hcd hxy)]
  | none =>
    change (r.isVerb g₁ c && _) = (r.isVerb g₂ d && _)
    rw [h.isVerb_eq hcd]

theorem verb_lastCheck_eq (h : Paired v g₁ g₂) (hv : Relator.BiUnique v) (has : Forall₂ v as bs)
    (r : VerbRule) : r.lastCheck g₁ as = r.lastCheck g₂ bs := by
  have htoken := rel_find? has fun _ _ hab => h.isVerb_eq hab r
  unfold VerbRule.lastCheck
  generalize as.find? (r.isVerb g₁) = x at htoken
  generalize bs.find? (r.isVerb g₂) = y at htoken
  have hrest : Forall₂ v (as.filter fun id => some id != x) (bs.filter fun id => some id != y) := by
    refine rel_filter has ?_
    intro a b hab
    cases htoken with
    | none => rfl
    | some hxy =>
      have hiff := Pairing.eq_iff hv hab hxy
      simp only [bne, Option.some_beq_some, beq_eq_beq.2 hiff]
  simp only [all_eq_of_rel hrest fun _ _ hab => h.isLinked_eq hv htoken hab r,
    isEmpty_eq_of_rel hrest]

end Graph.Paired

end LastChecks

end MeaningGraph
