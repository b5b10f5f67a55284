/-
# The passes of an iteration in twins

Arrangements of paired machines are paired place by place, so both runs try the same sequences in the same
order.  What is passed over on one side is passed over on the other.
-/
import MeaningGraph.Proofs.Activation.Steps
import MeaningGraph.Proofs.Twin.Acts

namespace MeaningGraph

open List (Forall₂)

/-! ## Arrangements -/

section Arrangements

variable {α β : Type} {R : α → β → Prop} {as : List α} {bs : List β}

theorem rel_picks (h : Forall₂ R as bs) :
    Forall₂ (fun x y => R x.1 y.1 ∧ Forall₂ R x.2 y.2) (picks as) (picks bs) := by
  induction h with
  | nil => exact .nil
  | cons hab has ih =>
    refine .cons ⟨hab, has⟩ ?_
    refine List.forall₂_map_left_iff.2 (List.forall₂_map_right_iff.2 ?_)
    exact ih.imp fun _ _ hxy => ⟨hxy.1, .cons hab hxy.2⟩

theorem rel_arrangements (h : Forall₂ R as bs) (n : Nat) :
    Forall₂ (Forall₂ R) (arrangements as n) (arrangements bs n) := by
  induction n generalizing as bs with
  | zero => exact .cons .nil .nil
  | succ n ih =>
    refine List.rel_flatMap (rel_picks h) ?_
    intro x y hxy
    refine List.forall₂_map_left_iff.2 (List.forall₂_map_right_iff.2 ?_)
    exact (ih hxy.2).imp fun _ _ hrest => .cons hxy.1 hrest

theorem rel_flatMap_same {ι γ δ : Type} {P : γ → δ → Prop} {f : ι → List γ} {k : ι → List δ}
    (is : List ι) (hfk : ∀ i, Forall₂ P (f i) (k i)) : Forall₂ P (is.flatMap f) (is.flatMap k) := by
  induction is with
  | nil => exact .nil
  | cons i is ih =>
    rw [List.flatMap_cons, List.flatMap_cons]
    exact List.rel_append (hfk i) ih

theorem rel_arrangementsUpTo (h : Forall₂ R as bs) (n : Nat) :
    Forall₂ (Forall₂ R) (arrangementsUpTo as n) (arrangementsUpTo bs n) := by
  unfold arrangementsUpTo
  rw [h.length_eq]
  exact rel_flatMap_same _ fun k => rel_arrangements h (k + 1)

theorem Pairing.isPrefixOf_eq {v : Pairing} (hv : Relator.BiUnique v) {as bs cs ds : List MachineId}
    (has : Forall₂ v as bs) (hcs : Forall₂ v cs ds) : as.isPrefixOf cs = bs.isPrefixOf ds := by
  induction has generalizing cs ds with
  | nil => rfl
  | cons hab _ ih =>
    cases hcs with
    | nil => rfl
    | cons hcd hcs =>
      rw [List.isPrefixOf, List.isPrefixOf, ih hcs, beq_eq_beq.2 (Pairing.eq_iff hv hab hcd)]

end Arrangements

/-! ## The passes -/

namespace Activation

variable {base l₁ l₂ : Lexicon} {p : Construction} {w : World} {as bs : List MachineId}
  {s t : Construction × Lexicon}

open Construction (Runs Agree)

theorem expandEach_twin (h : Lexicon.Twin base w l₁ l₂) (has : Forall₂ w.active as bs) :
    Lexicon.Agree base (fun _ _ _ => True) w (expandEach as l₁) (expandEach bs l₂) := by
  induction as generalizing w l₁ l₂ bs with
  | nil =>
    cases has
    exact .pure h trivial
  | cons a as ih =>
    cases has with
    | cons hab has =>
      refine (h.expand hab).bind fun w' _ _ s t hw h' _ => ?_
      exact ih h' (has.imp hw.2)

theorem expandPass_twin (h : Lexicon.Twin base w l₁ l₂) :
    Lexicon.Agree base (fun _ x y => x = y) w (expandPass l₁) (expandPass l₂) := by
  have hids := h.expanded false
  unfold expandPass
  rw [Lexicon.get_bind, Lexicon.get_bind]
  refine (expandEach_twin h hids).bind fun w' _ _ s t _ h' _ => ?_
  exact .pure h' hids.length_eq

theorem candidates_twin (h : Runs base p w s t) {kept₁ kept₂ seqs₁ seqs₂ : List (List MachineId)}
    {refused₁ refused₂ : Option (List MachineId)} (hkept : Forall₂ (Forall₂ w.active) kept₁ kept₂)
    (hrefused : Option.Rel (Forall₂ w.own) refused₁ refused₂)
    (hseqs : Forall₂ (Forall₂ w.active) seqs₁ seqs₂) :
    Agree base p (fun w' x y => Forall₂ (Forall₂ w'.active) x y) w (candidates kept₁ refused₁ seqs₁ s)
      (candidates kept₂ refused₂ seqs₂ t) := by
  induction seqs₁ generalizing w s t kept₁ kept₂ refused₁ refused₂ seqs₂ with
  | nil =>
    cases hseqs
    exact .pure h (List.rel_reverse hkept)
  | cons seq₁ seqs₁ ih =>
    cases hseqs with
    | @cons _ seq₂ _ seqs₂ hseq hseqs =>
      have hskip : refused₁.any (·.isPrefixOf seq₁) = refused₂.any (·.isPrefixOf seq₂) := by
        refine option_any_eq_of_rel hrefused ?_
        intro _ _ hxy
        exact Pairing.isPrefixOf_eq h.lexica.unique hxy (h.lexica.active_le hseq)
      unfold candidates
      rw [hskip]
      split
      · exact ih h hkept hrefused hseqs
      · refine (h.checkNow hseq).bind fun w' x y s' t' hw h' hxy => ?_
        have hkept' : Forall₂ (Forall₂ w'.active) kept₁ kept₂ :=
          hkept.imp fun _ _ hk => hk.imp hw.2
        have hseqs' : Forall₂ (Forall₂ w'.active) seqs₁ seqs₂ :=
          hseqs.imp fun _ _ hk => hk.imp hw.2
        subst hxy
        split
        · exact ih h' (.cons (hseq.imp hw.2) hkept') .none hseqs'
        · have hown : Forall₂ w'.own seq₁ seq₂ := (h.lexica.active_le hseq).imp hw.1
          exact ih h' hkept' (h'.refused?_rel hown) hseqs'

theorem fireFirst_twin (h : Runs base p w s t) {seqs₁ seqs₂ : List (List MachineId)}
    (hseqs : Forall₂ (Forall₂ w.active) seqs₁ seqs₂) :
    Agree base p (fun _ x y => x = y) w (fireFirst seqs₁ s) (fireFirst seqs₂ t) := by
  induction seqs₁ generalizing w s t seqs₂ with
  | nil =>
    cases hseqs
    exact .pure h rfl
  | cons seq₁ seqs₁ ih =>
    cases hseqs with
    | cons hseq hseqs =>
      refine (h.act hseq).bind fun w' x y s' t' hw h' hxy => ?_
      cases hxy with
      | none => exact ih h' (hseqs.imp fun _ _ hk => hk.imp hw.2)
      | some hnew =>
        have hmerge := h'.onLexica (h'.lexica.mergeActive hnew)
        refine Outcome.Agree.bind hmerge fun w'' _ _ s'' t'' _ h'' _ => ?_
        exact .pure h'' rfl

theorem fire_twin (h : Runs base p w s t) (maxArity : Nat) :
    Agree base p (fun _ x y => x = y) w (fire maxArity s) (fire maxArity t) := by
  have hseqs := rel_arrangementsUpTo h.lexica.order maxArity
  change Agree base p _ w ((candidates [] none _ >>= fireFirst) s) ((candidates [] none _ >>= fireFirst) t)
  refine (candidates_twin h .nil .none hseqs).bind fun w' x y s' t' _ h' hxy => ?_
  exact fireFirst_twin h' hxy

theorem offerEach_twin (h : Runs base p w s t) (has : Forall₂ w.active as bs) :
    Agree base p (fun _ _ _ => True) w (offerEach as s) (offerEach bs t) := by
  induction as generalizing w s t bs with
  | nil =>
    cases has
    exact .pure h trivial
  | cons a as ih =>
    cases has with
    | cons hab has =>
      refine (h.checkNow (.cons hab .nil)).bind fun w₁ x y s₁ t₁ hw₁ h₁ hxy => ?_
      subst hxy
      split
      · refine (h₁.act (.cons (hw₁.2 _ _ hab) .nil)).bind fun w₂ _ _ s₂ t₂ hw₂ h₂ _ => ?_
        exact ih h₂ ((has.imp hw₁.2).imp hw₂.2)
      · exact ih h₁ (has.imp hw₁.2)

theorem offerAll_twin (h : Runs base p w s t) :
    Agree base p (fun _ x y => x = y) w (offerAll s) (offerAll t) := by
  change Agree base p _ w ((offerEach s.2.order >>= fun _ => get >>= _) s)
    ((offerEach t.2.order >>= fun _ => get >>= _) t)
  refine (offerEach_twin h h.lexica.order).bind fun w' _ _ s' t' _ h' _ => ?_
  refine .pure h' ?_
  rw [h'.rules.filledSlots_eq, h.rules.filledSlots_eq, h'.rules.message?_eq h'.lexica.alike]

end Activation

/-! ## Lists of rules -/

/-- The lexicon works beside the background, and the rules have kept their programs. -/
structure RulesM.Confined (base : Lexicon) (ps : List Construction)
    (s : List Construction × Lexicon) : Prop where
  lexicon : Lexicon.Confined base s.2
  programs : s.1.map Construction.program = ps

/-- Two runs of the rules of one kind, each beside its lexicon. -/
structure RulesM.Runs (base : Lexicon) (ps : List Construction) (w : World)
    (s t : List Construction × Lexicon) : Prop where
  lexica : Lexicon.Twin base w s.2 t.2
  rules : Forall₂ (Construction.Twin w.own) s.1 t.1
  programs : s.1.map Construction.program = ps

namespace RulesM

/-- Outcomes of one operation of two runs. -/
abbrev Agree {α : Type} (base : Lexicon) (ps : List Construction) (V : World → α → α → Prop)
    (w : World) : EStateM.Result Error (List Construction × Lexicon) α →
      EStateM.Result Error (List Construction × Lexicon) α → Prop :=
  Outcome.Agree (Runs base ps) (fun s t => Confined base ps s ∧ Confined base ps t) V w

variable {base l₁ l₂ : Lexicon} {ps : List Construction} {w : World} {α : Type}
  {V : World → α → α → Prop} {rs₁ rs₂ : List Construction} {s t : List Construction × Lexicon}
  {f k : EStateM Error (Construction × Lexicon) α}

theorem forall₂_program_eq {v : Pairing} (h : Forall₂ (Construction.Twin v) rs₁ rs₂) :
    rs₁.map Construction.program = rs₂.map Construction.program :=
  map_eq_of_rel h fun _ _ hc => hc.program_eq

theorem agree_behind {p r₁ r₂ : Construction} {β : Type} {V' : World → β → β → Prop}
    {x y : EStateM.Result Error (List Construction × Lexicon) α} {a b : α → β}
    (hr : Construction.Twin w.own r₁ r₂) (hp : r₁.program = p) (h : Agree base ps V w x y)
    (hV : ∀ w' u v, w ≤ w' → V w' u v → V' w' (a u) (b v)) :
    Agree base (p :: ps) V' w (behind r₁ a x) (behind r₂ b y) := by
  have hp' : r₂.program = p := hr.program_eq ▸ hp
  rcases x with ⟨u, rs₁, l₁⟩ | ⟨e, rs₁, l₁⟩ <;> rcases y with ⟨v, rs₂, l₂⟩ | ⟨e', rs₂, l₂⟩
  · obtain ⟨w', hw, h', huv⟩ := h
    exact ⟨w', hw, ⟨h'.lexica, .cons (hr.mono hw.1) h'.rules, congrArg₂ List.cons hp h'.programs⟩,
      hV w' u v hw huv⟩
  · exact h.elim
  · exact h.elim
  · obtain ⟨he, hleft, hright⟩ := h
    exact ⟨he, ⟨hleft.lexicon, congrArg₂ List.cons hp hleft.programs⟩, hright.lexicon,
      congrArg₂ List.cons hp' hright.programs⟩

theorem confined_cons {p : Construction} {r : Construction} {rs : List Construction} {l : Lexicon}
    (h : Construction.Confined base p (r, l)) :
    Confined base (p :: rs.map Construction.program) (r :: rs, l) :=
  ⟨h.lexicon, congrArg (· :: _) h.program⟩

theorem forEach_twin (h : Runs base ps w (rs₁, l₁) (rs₂, l₂))
    (hV : ∀ w w' x y, w ≤ w' → V w x y → V w' x y)
    (hf : ∀ w' p s t, w ≤ w' → Construction.Runs base p w' s t →
      Construction.Agree base p V w' (f s) (k t)) :
    Agree base ps (fun w' xs ys => Forall₂ (V w') xs ys) w (forEach f rs₁ l₁) (forEach k rs₂ l₂) := by
  induction rs₁ generalizing ps w l₁ l₂ rs₂ with
  | nil =>
    cases h.rules
    exact .ok h .nil
  | cons r₁ rs₁ ih =>
    obtain ⟨hlexica, hrules, rfl⟩ := h
    cases hrules with
    | @cons _ r₂ _ rs₂ hr hrs =>
      have hfirst := hf w r₁.program (r₁, l₁) (r₂, l₂) (le_refl w) ⟨hlexica, hr, rfl⟩
      rcases hx : f (r₁, l₁) with ⟨a, r₁', l₁'⟩ | ⟨e, r₁', l₁'⟩ <;>
        rcases hy : k (r₂, l₂) with ⟨b, r₂', l₂'⟩ | ⟨e', r₂', l₂'⟩ <;> rw [hx, hy] at hfirst
      · obtain ⟨w', hw, hfirst, hab⟩ := hfirst
        have hnext : Runs base (rs₁.map Construction.program) w' (rs₁, l₁') (rs₂, l₂') :=
          ⟨hfirst.lexica, hrs.imp fun _ _ hc => hc.mono hw.1, rfl⟩
        have hrest := ih hnext fun w'' p s t hw' => hf w'' p s t (hw.trans hw')
        rw [forEach_cons hx, forEach_cons hy]
        refine (agree_behind hfirst.rules hfirst.program hrest ?_).of_le hw
        exact fun w'' xs ys hw' hxys => .cons (hV w' w'' a b hw' hab) hxys
      · exact hfirst.elim
      · exact hfirst.elim
      · rw [forEach_cons_error hx, forEach_cons_error hy]
        refine ⟨hfirst.1, confined_cons hfirst.2.1, ?_⟩
        rw [List.map_cons, forall₂_program_eq hrs]
        exact confined_cons hfirst.2.2

theorem firstOf_twin {f k : EStateM Error (Construction × Lexicon) (Option α)}
    (h : Runs base ps w (rs₁, l₁) (rs₂, l₂))
    (hf : ∀ w' p s t, w ≤ w' → Construction.Runs base p w' s t →
      Construction.Agree base p (fun w' x y => Option.Rel (V w') x y) w' (f s) (k t)) :
    Agree base ps (fun w' x y => Option.Rel (V w') x y) w (firstOf f rs₁ l₁) (firstOf k rs₂ l₂) := by
  induction rs₁ generalizing ps w l₁ l₂ rs₂ with
  | nil =>
    cases h.rules
    exact .ok h .none
  | cons r₁ rs₁ ih =>
    obtain ⟨hlexica, hrules, rfl⟩ := h
    cases hrules with
    | @cons _ r₂ _ rs₂ hr hrs =>
      have hfirst := hf w r₁.program (r₁, l₁) (r₂, l₂) (le_refl w) ⟨hlexica, hr, rfl⟩
      rcases hx : f (r₁, l₁) with ⟨a, r₁', l₁'⟩ | ⟨e, r₁', l₁'⟩ <;>
        rcases hy : k (r₂, l₂) with ⟨b, r₂', l₂'⟩ | ⟨e', r₂', l₂'⟩ <;> rw [hx, hy] at hfirst
      · obtain ⟨w', hw, hfirst, hab⟩ := hfirst
        have hrs' := hrs.imp fun _ _ (hc : Construction.Twin w.own _ _) => hc.mono hw.1
        cases hab with
        | some hab =>
          rw [firstOf_cons_some hx, firstOf_cons_some hy]
          refine ⟨w', hw, ⟨hfirst.lexica, .cons hfirst.rules hrs', ?_⟩, .some hab⟩
          exact congrArg (· :: _) hfirst.program
        | none =>
          have hnext : Runs base (rs₁.map Construction.program) w' (rs₁, l₁') (rs₂, l₂') :=
            ⟨hfirst.lexica, hrs', rfl⟩
          have hrest := ih hnext fun w'' p s t hw' => hf w'' p s t (hw.trans hw')
          rw [firstOf_cons_none hx, firstOf_cons_none hy]
          exact (agree_behind hfirst.rules hfirst.program hrest fun _ _ _ _ hxy => hxy).of_le hw
      · exact hfirst.elim
      · exact hfirst.elim
      · rw [firstOf_cons_error hx, firstOf_cons_error hy]
        refine ⟨hfirst.1, confined_cons hfirst.2.1, ?_⟩
        rw [List.map_cons, forall₂_program_eq hrs]
        exact confined_cons hfirst.2.2

end RulesM

end MeaningGraph
