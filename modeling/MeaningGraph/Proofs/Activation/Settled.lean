/-
# Passes that change nothing

A semantic rule that was tried and did not fire has been tried on everything: each arrangement of the
active machines either fails the check, or passes it and makes the rule act without effect.  Arrangements
that were passed over begin as one that the automaton refused, so they fail the check too.  A check starts
the automaton afresh, so what it answers depends on the program of the rule, and a second pass goes
through the checks of the first.

A matrix that was offered machines has taken none exactly when its filled slots are as many as before.

`forEach_settled` takes this from one rule to the rules of a kind: the pass left the lexicon alone, and
made again over the rules it left behind it answers the same and changes nothing.
-/
import MeaningGraph.Proofs.Activation.Trace
import MeaningGraph.Proofs.Arrangement

namespace MeaningGraph

open Outcome (steps_of_ok bind_eq_of_ok)

variable {α : Type} {c c' d : Construction} {l l' : Lexicon} {seq : List MachineId}
  {t : Construction × Lexicon}

/-! ## Checks -/

namespace Construction

/-- The check answers this, and leaves the lexicon alone. -/
def Answers (c : Construction) (l : Lexicon) (seq : List MachineId) (b : Bool) : Prop :=
  ∃ c', Rule.checkNow seq (c, l) = .ok b (c', l)

/-- The answer of the check; a check that fails accepts nothing. -/
def accepts (c : Construction) (l : Lexicon) (seq : List MachineId) : Bool :=
  match Rule.checkNow seq (c, l) with
  | .ok b _ => b
  | .error _ _ => false

theorem kind_eq_of_program (h : c.program = d.program) : Rule.kind c = Rule.kind d := by
  rw [← c.kind_program, h, d.kind_program]

theorem checkNow_congr (hc : Rule.kind c ≠ .avm) (h : c.program = d.program)
    (seq : List MachineId) (l : Lexicon) :
    (Rule.checkNow seq (c, l) : EStateM.Result Error (Construction × Lexicon) Bool) =
      Rule.checkNow seq (d, l) := by
  cases d with
  | append r =>
    cases c <;> cases h
    rfl
  | trigger r =>
    cases c <;> cases h
    rfl
  | avm r => exact absurd (kind_eq_of_program h) hc
  | verb r =>
    obtain ⟨r', rfl, hrest⟩ := exists_verb_of_program h
    obtain ⟨v, k, as, m⟩ := r
    obtain ⟨v', k', as', m'⟩ := r'
    simp only [VerbRule.rest, VerbRule.mk.injEq] at hrest
    obtain ⟨rfl, rfl, rfl, hm⟩ := hrest
    have hreset : m'.reset = m.reset := Acceptor.reset_eq_of_moveTo hm
    have hfault : m'.fault? = m.fault? := by
      change m'.reset.fault? = m.reset.fault?
      rw [hreset]
    rw [checkNow_verb, checkNow_verb, hreset, hfault]

theorem accepts_congr (hc : Rule.kind c ≠ .avm) (h : c.program = d.program) :
    c.accepts l = d.accepts l := by
  funext seq
  unfold accepts
  rw [checkNow_congr hc h]

theorem answers_congr (hc : Rule.kind c ≠ .avm) (h : c.program = d.program) {b : Bool} :
    c.Answers l seq b ↔ d.Answers l seq b := by
  unfold Answers
  rw [checkNow_congr hc h]

theorem checkNow_ok {b : Bool} (h : Rule.checkNow seq (c, l) = .ok b t) :
    t.2 = l ∧ t.1.program = c.program := by
  have hstate := c.program_checkNow seq l
  rw [h] at hstate
  exact ⟨hstate.2, hstate.1⟩

theorem answers_of_ok {b : Bool} (h : Rule.checkNow seq (c, l) = .ok b t) : c.Answers l seq b := by
  obtain ⟨c', l'⟩ := t
  obtain ⟨rfl, -⟩ := checkNow_ok h
  exact ⟨c', h⟩

theorem Answers.accepts_eq {b : Bool} (h : c.Answers l seq b) : c.accepts l seq = b := by
  obtain ⟨c', h⟩ := h
  unfold accepts
  rw [h]

/-- Where a beginning was refused, every sequence that begins so fails the check. -/
theorem answers_of_refused? {b : Bool} {beginning : List MachineId} (h : c.Answers l seq b)
    (hrefused : Rule.refused? c l.graph seq = some beginning) (rest : List MachineId) :
    c.Answers l (beginning ++ rest) false := by
  cases c with
  | append r =>
    have hscan := (Acceptor.scan_of_refused? hrefused).2 rest
    refine ⟨.append r, ?_⟩
    change EStateM.Result.ok (r.check l.graph (beginning ++ rest)) _ = _
    unfold AppendRule.check
    rw [hscan]
  | trigger r =>
    have hscan := (Acceptor.scan_of_refused? hrefused).2 rest
    refine ⟨.trigger r, ?_⟩
    change EStateM.Result.ok (r.check l.graph (beginning ++ rest)) _ = _
    unfold TriggerRule.check
    rw [hscan]
  | avm r => cases hrefused
  | verb r =>
    have hscan := (Acceptor.scan_of_refused? hrefused).2 rest
    obtain ⟨c', hc'⟩ := h
    rw [checkNow_verb] at hc'
    -- the check of the whole sequence ran, so the automaton has no fault
    cases hfault : r.automaton.fault? with
    | some fault =>
      rw [hfault] at hc'
      cases hc'
    | none =>
      refine ⟨.verb { r with automaton := (r.automaton.reset.scan l.graph (beginning ++ rest)).2 }, ?_⟩
      rw [checkNow_verb, hfault]
      simp only
      rw [hscan]

end Construction

namespace Activation

open Construction

variable {kept out : List (List MachineId)} {refused : Option (List MachineId)}
  {seqs : List (List MachineId)} {n : Nat}

/-! ## The candidates -/

theorem candidates_cons (kept : List (List MachineId)) (refused : Option (List MachineId))
    (seq : List MachineId) (seqs : List (List MachineId)) :
    (candidates kept refused (seq :: seqs) :
      EStateM Error (Construction × Lexicon) (List (List MachineId))) =
      if refused.any (·.isPrefixOf seq) then candidates kept refused seqs
      else Rule.checkNow seq >>= fun accepted =>
        if accepted then candidates (seq :: kept) none seqs
        else get >>= fun s => candidates kept (Rule.refused? s.1 s.2.graph seq) seqs := by
  conv_lhs => unfold candidates

/-- Each sequence has an answer of the check, and `out` adds those that pass it to the ones kept before. -/
def Tried (c : Construction) (l : Lexicon) (kept seqs out : List (List MachineId)) : Prop :=
  (∀ seq ∈ seqs, c.Answers l seq (c.accepts l seq)) ∧ out = kept.reverse ++ seqs.filter (c.accepts l)

theorem Tried.keep (h : Tried c l (seq :: kept) seqs out) (hseq : c.Answers l seq true) :
    Tried c l kept (seq :: seqs) out := by
  refine ⟨List.forall_mem_cons.2 ⟨?_, h.1⟩, ?_⟩
  · rwa [hseq.accepts_eq]
  · rw [h.2, List.filter_cons_of_pos hseq.accepts_eq, List.reverse_cons, List.append_assoc]
    rfl

theorem Tried.skip (h : Tried c l kept seqs out) (hseq : c.Answers l seq false) :
    Tried c l kept (seq :: seqs) out := by
  refine ⟨List.forall_mem_cons.2 ⟨?_, h.1⟩, ?_⟩
  · rwa [hseq.accepts_eq]
  · rw [h.2, List.filter_cons_of_neg (by rw [hseq.accepts_eq]; exact Bool.false_ne_true)]

theorem Tried.congr (h : Tried d l kept seqs out) (hd : Rule.kind d ≠ .avm) (hp : d.program = c.program) :
    Tried c l kept seqs out := by
  refine ⟨?_, ?_⟩
  · intro seq hseq
    rw [← accepts_congr hd hp]
    exact (answers_congr hd hp).1 (h.1 seq hseq)
  · rw [h.2, accepts_congr hd hp]

/-- The candidates are the sequences that pass the check; the others fail it, whether they were checked or
passed over. -/
theorem candidates_ok (hc : Rule.kind c ≠ .avm)
    (hrefused : ∀ b, refused = some b → ∀ rest, c.Answers l (b ++ rest) false)
    (h : candidates kept refused seqs (c, l) = .ok out t) :
    t.2 = l ∧ t.1.program = c.program ∧ Tried c l kept seqs out := by
  induction seqs generalizing kept refused c with
  | nil =>
    cases h
    simp [Tried]
  | cons seq seqs ih =>
    rw [candidates_cons] at h
    split at h
    · rename_i hpassed
      -- the sequence begins as one that was refused
      obtain ⟨b, rfl, hb⟩ := (Option.any_eq_true _ _).1 hpassed
      obtain ⟨rest, rfl⟩ := List.isPrefixOf_iff_prefix.1 hb
      obtain ⟨hl, hp, htried⟩ := ih hc hrefused h
      exact ⟨hl, hp, htried.skip (hrefused b rfl rest)⟩
    · obtain ⟨accepted, ⟨c₁, l₁⟩, hcheck, h⟩ := steps_of_ok h
      obtain ⟨rfl, hprogram⟩ := checkNow_ok hcheck
      have hanswer : c.Answers l₁ seq accepted := answers_of_ok hcheck
      have hkind : Rule.kind c₁ ≠ .avm := kind_eq_of_program hprogram ▸ hc
      cases accepted with
      | true =>
        obtain ⟨hl, hp, htried⟩ := ih hkind (fun b hb => by cases hb) h
        exact ⟨hl, hp.trans hprogram, (htried.congr hkind hprogram).keep hanswer⟩
      | false =>
        have hanswer₁ : c₁.Answers l₁ seq false := (answers_congr hkind hprogram).2 hanswer
        obtain ⟨hl, hp, htried⟩ :=
          ih hkind (fun b hb rest => answers_of_refused? hanswer₁ hb rest) h
        exact ⟨hl, hp.trans hprogram, (htried.congr hkind hprogram).skip hanswer⟩

theorem candidates_again (hc : Rule.kind c ≠ .avm)
    (h : candidates kept none seqs (c, l) = .ok out t) :
    candidates kept none seqs (t.1, l) = .ok out t := by
  cases seqs with
  | nil =>
    cases h
    rfl
  | cons seq seqs =>
    obtain ⟨-, hprogram, -⟩ := candidates_ok hc (fun b hb => by cases hb) h
    rw [candidates_cons] at h ⊢
    obtain ⟨accepted, t₁, hcheck, hrest⟩ := steps_of_ok h
    rw [checkNow_congr hc hprogram.symm] at hcheck
    exact (bind_eq_of_ok hcheck).trans hrest

/-! ## A pass without effect -/

theorem fireFirst_false (hc : Rule.kind c ≠ .avm) (h : fireFirst seqs (c, l) = .ok false t) :
    t = (c, l) ∧ ∀ seq ∈ seqs, Rule.act seq (c, l) = .ok none (c, l) := by
  induction seqs with
  | nil =>
    cases h
    exact ⟨rfl, fun seq hseq => (List.not_mem_nil hseq).elim⟩
  | cons seq seqs ih =>
    obtain ⟨answer, t₁, hact, h⟩ := steps_of_ok h
    cases answer with
    | some new =>
      obtain ⟨_, t₂, -, h⟩ := steps_of_ok h
      cases h
    | none =>
      obtain rfl := eq_of_act_none hc hact
      obtain ⟨ht, hall⟩ := ih h
      exact ⟨ht, List.forall_mem_cons.2 ⟨hact, hall⟩⟩

/-- The rule can do nothing: each sequence of different active machines that is not too long fails its check,
or is one on which the rule acts without effect. -/
def Idle (n : Nat) (c : Construction) (l : Lexicon) : Prop :=
  ∀ seq : List MachineId, seq.Nodup → seq ⊆ l.order → 1 ≤ seq.length → seq.length ≤ n →
    c.Answers l seq false ∨ Rule.act seq (c, l) = .ok none (c, l)

/-- A rule that was tried and did not fire left the lexicon alone; tried again it does the same, and there is
nothing it can do. -/
theorem fire_false (hc : Rule.kind c ≠ .avm) (h : fire n (c, l) = .ok false (c', l')) :
    l' = l ∧ fire n (c', l) = .ok false (c', l) ∧ Idle n c' l := by
  obtain ⟨out, ⟨c₁, l₁⟩, hcandidates, hfire⟩ := steps_of_ok (x := candidates [] none _) h
  obtain ⟨rfl, hprogram, hall, hout⟩ := candidates_ok hc (fun b hb => by cases hb) hcandidates
  have hkind : Rule.kind c₁ ≠ .avm := kind_eq_of_program hprogram ▸ hc
  obtain ⟨heq, hacts⟩ := fireFirst_false hkind hfire
  cases heq
  refine ⟨rfl, ?_, ?_⟩
  · exact (bind_eq_of_ok (candidates_again hc hcandidates)).trans hfire
  · intro seq hnodup hsub hpos hle
    have hseq := mem_arrangementsUpTo_of_nodup hnodup hsub hpos hle
    cases haccepts : c.accepts l' seq with
    | false =>
      have hanswer := hall seq hseq
      rw [haccepts] at hanswer
      exact .inl ((answers_congr hkind hprogram).2 hanswer)
    | true =>
      refine .inr (hacts seq ?_)
      rw [hout]
      exact List.mem_filter.2 ⟨hseq, haccepts⟩

end Activation

/-! ## Matrices -/

namespace Avm

variable {g : Graph} {id : MachineId}

theorem filledCount_fill (a : Avm) (g : Graph) (id : MachineId) :
    (a.fill g id).2.filledCount = a.filledCount + (a.fill g id).1 := by
  change (a.slots.map (·.offer g id)).countP (·.isFilled) =
    a.slots.countP (·.isFilled) + a.slots.countP (·.takes g id)
  induction a.slots with
  | nil => rfl
  | cons s ss ih =>
    rw [List.map_cons, List.countP_cons, List.countP_cons, List.countP_cons, ih]
    cases hfilled : s.isFilled with
    | true =>
      have htakes : s.takes g id = false := by simp [AvmSlot.takes, hfilled]
      simp [AvmSlot.offer, htakes, hfilled]
      omega
    | false =>
      cases htakes : s.takes g id with
      | true =>
        simp [AvmSlot.offer, htakes, AvmSlot.isFilled]
        omega
      | false => simp [AvmSlot.offer, htakes, hfilled]

theorem accepts_iff (a : Avm) (g : Graph) (id : MachineId) :
    a.accepts g id = true ↔ 0 < (a.fill g id).1 := by
  unfold accepts fill
  rw [List.any_eq_true, List.countP_pos_iff]

end Avm

theorem Construction.exists_of_kind_avm (h : Rule.kind c = .avm) : ∃ r, c = .avm r := by
  cases c with
  | avm r => exact ⟨r, rfl⟩
  | append r =>
    change (if r.semantic then RuleKind.semantic else RuleKind.chunk) = .avm at h
    split at h <;> cases h
  | verb r => cases h
  | trigger r => cases h

namespace Activation

open Construction

variable {r : AvmRule} {ids : List MachineId}

theorem offerEach_avm_cons (r : AvmRule) (id : MachineId) (ids : List MachineId) (l : Lexicon) :
    offerEach (id :: ids) (avm r, l) =
      if r.avm.accepts l.graph id then
        offerEach ids (avm { r with avm := (r.avm.fill l.graph id).2 }, l)
      else offerEach ids (avm r, l) := by
  have hcheck : Rule.checkNow [id] (avm r, l) = .ok (r.avm.accepts l.graph id) (avm r, l) := rfl
  refine (bind_eq_of_ok hcheck).trans ?_
  cases r.avm.accepts l.graph id <;> rfl

/-- Matrices are never emptied by offers, and one that filled no slot has refused every machine. -/
theorem offerEach_avm (r : AvmRule) (ids : List MachineId) (l : Lexicon) :
    ∃ r', offerEach ids (avm r, l) = .ok () (avm r', l) ∧ r.avm.filledCount ≤ r'.avm.filledCount ∧
      (r'.avm.filledCount = r.avm.filledCount →
        r' = r ∧ ∀ id ∈ ids, r.avm.accepts l.graph id = false) := by
  induction ids generalizing r with
  | nil => exact ⟨r, rfl, Nat.le_refl _, fun _ => ⟨rfl, fun id hid => (List.not_mem_nil hid).elim⟩⟩
  | cons id ids ih =>
    rw [offerEach_avm_cons]
    cases haccepts : r.avm.accepts l.graph id with
    | true =>
      obtain ⟨r', hr', hle, -⟩ := ih { r with avm := (r.avm.fill l.graph id).2 }
      have hpos := (r.avm.accepts_iff l.graph id).1 haccepts
      have hcount := r.avm.filledCount_fill l.graph id
      refine ⟨r', hr', ?_, ?_⟩
      · change (r.avm.fill l.graph id).2.filledCount ≤ _ at hle
        omega
      · intro heq
        change (r.avm.fill l.graph id).2.filledCount ≤ _ at hle
        omega
    | false =>
      obtain ⟨r', hr', hle, hsame⟩ := ih r
      refine ⟨r', hr', hle, ?_⟩
      intro heq
      obtain ⟨rfl, hall⟩ := hsame heq
      exact ⟨rfl, List.forall_mem_cons.2 ⟨haccepts, hall⟩⟩

/-- The matrix takes no active machine. -/
def Closed (c : Construction) (l : Lexicon) : Prop :=
  ∀ id ∈ l.order, Rule.checkNow [id] (c, l) = .ok false (c, l)

/-- A pass over a matrix leaves the lexicon alone and counts the slots it fills.  If it fills none, the
matrix is as it was and takes no active machine. -/
theorem offerAll_ok {answer : Nat × Bool} (hc : Rule.kind c = .avm)
    (h : offerAll (c, l) = .ok answer (c', l')) :
    l' = l ∧ Rule.filledSlots c' = Rule.filledSlots c + answer.1 ∧
      (answer.1 = 0 → c' = c ∧ Closed c l) := by
  obtain ⟨r, rfl⟩ := exists_of_kind_avm hc
  obtain ⟨r', hr', hle, hsame⟩ := offerEach_avm r l.order l
  obtain ⟨_, t₁, hoffer, h⟩ := steps_of_ok (x := offerEach l.order) h
  rw [hr'] at hoffer
  cases hoffer
  cases h
  refine ⟨rfl, (Nat.add_sub_of_le hle).symm, ?_⟩
  intro hzero
  have hcount : r'.avm.filledCount = r.avm.filledCount :=
    Nat.le_antisymm (Nat.sub_eq_zero_iff_le.1 hzero) hle
  obtain ⟨rfl, hall⟩ := hsame hcount
  refine ⟨rfl, ?_⟩
  intro id hid
  change EStateM.Result.ok (r'.avm.accepts l.graph id) _ = _
  rw [hall id hid]

/-! ## All rules of a kind -/

theorem filledSlots_offerAll {rs rs' : List Construction} {answers : List (Nat × Bool)}
    (hrs : ∀ c ∈ rs, Rule.kind c = .avm) (h : RulesM.forEach offerAll rs l = .ok answers (rs', l')) :
    l' = l ∧
      rs'.foldr (Rule.filledSlots · + ·) 0 =
        rs.foldr (Rule.filledSlots · + ·) 0 + answers.foldr (·.1 + ·) 0 := by
  induction rs generalizing answers rs' with
  | nil =>
    cases h
    exact ⟨rfl, rfl⟩
  | cons c rs ih =>
    obtain ⟨a, c', l₁, as, cs, l₂, hc, hrest, rfl, heq⟩ := RulesM.forEach_cons_ok h
    cases heq
    obtain ⟨hkind, hkinds⟩ := List.forall_mem_cons.1 hrs
    obtain ⟨rfl, hfilled, -⟩ := offerAll_ok hkind hc
    obtain ⟨rfl, hsum⟩ := ih hkinds hrest
    refine ⟨rfl, ?_⟩
    simp only [List.foldr_cons, hsum]
    omega

theorem forall_eq_zero_of_filled {answers : List (Nat × Bool)}
    (h : answers.foldr (·.1 + ·) 0 = 0) : ∀ a ∈ answers, a.1 = 0 := by
  induction answers with
  | nil => exact fun a ha => (List.not_mem_nil ha).elim
  | cons a as ih =>
    rw [List.foldr_cons] at h
    exact List.forall_mem_cons.2 ⟨Nat.eq_zero_of_add_eq_zero_right h, ih (Nat.eq_zero_of_add_eq_zero_left h)⟩

/-- If each rule leaves the lexicon alone and answers the same when tried again, so do all of them one after
the other. -/
theorem forEach_settled {f : EStateM Error (Construction × Lexicon) α} {Quiet : α → Prop}
    {P : Construction → Prop} {rs rs' : List Construction} {answers : List α}
    (hf : ∀ c ∈ rs, ∀ a c' l', f (c, l) = .ok a (c', l') → Quiet a →
      l' = l ∧ f (c', l) = .ok a (c', l) ∧ P c')
    (h : RulesM.forEach f rs l = .ok answers (rs', l')) (hquiet : ∀ a ∈ answers, Quiet a) :
    l' = l ∧ RulesM.forEach f rs' l = .ok answers (rs', l) ∧ ∀ c ∈ rs', P c := by
  induction rs generalizing answers rs' with
  | nil =>
    cases h
    exact ⟨rfl, rfl, fun c hc => (List.not_mem_nil hc).elim⟩
  | cons c rs ih =>
    obtain ⟨a, c', l₁, as, cs, l₂, hc, hrest, rfl, heq⟩ := RulesM.forEach_cons_ok h
    cases heq
    obtain ⟨ha, has⟩ := List.forall_mem_cons.1 hquiet
    obtain ⟨rfl, hagain, hP⟩ := hf c List.mem_cons_self a c' l₁ hc ha
    obtain ⟨rfl, hagains, hPs⟩ := ih (fun d hd => hf d (List.mem_cons_of_mem _ hd)) hrest has
    exact ⟨rfl, RulesM.forEach_cons_of_ok hagain hagains, List.forall_mem_cons.2 ⟨hP, hPs⟩⟩

/-- A pass in which no rule fired can be made again, and no rule does anything. -/
theorem forEach_fire_settled {rs rs' : List Construction} {fired : List Bool}
    (hrs : ∀ c ∈ rs, Rule.kind c ≠ .avm) (h : RulesM.forEach (fire n) rs l = .ok fired (rs', l'))
    (hfired : fired.countP id = 0) :
    l' = l ∧ RulesM.forEach (fire n) rs' l = .ok fired (rs', l) ∧ ∀ c ∈ rs', Idle n c l := by
  have hfalse : ∀ b ∈ fired, b = false := by
    intro b hb
    exact Bool.eq_false_iff.2 (List.countP_eq_zero.1 hfired b hb)
  refine forEach_settled ?_ h hfalse
  rintro c hc b c' l' hfire rfl
  obtain ⟨rfl, hagain, hidle⟩ := fire_false (hrs c hc) hfire
  exact ⟨rfl, hagain, hidle⟩

theorem forEach_offerAll_settled {rs rs' : List Construction} {filled : List (Nat × Bool)}
    (hrs : ∀ c ∈ rs, Rule.kind c = .avm) (h : RulesM.forEach offerAll rs l = .ok filled (rs', l'))
    (hfilled : filled.foldr (·.1 + ·) 0 = 0) :
    l' = l ∧ RulesM.forEach offerAll rs' l = .ok filled (rs', l) ∧ ∀ c ∈ rs', Closed c l := by
  refine forEach_settled ?_ h (forall_eq_zero_of_filled hfilled)
  intro c hc a c' l' hoffer ha
  obtain ⟨rfl, -, hsame⟩ := offerAll_ok (hrs c hc) hoffer
  obtain ⟨rfl, hclosed⟩ := hsame ha
  exact ⟨rfl, hoffer, hclosed⟩

end Activation

end MeaningGraph
