/-
# A run only adds to the working set

Registering seeds, drawing definitions in, promoting them and making plugin machines all add machines at the end of
the order.  Only merging could take one out, by folding it into another.  But what a rule answers is active by then:

    append     the head, which is one of the sequence
    verb       its token, or the first active instance of its name
    trigger    the plugin machine, which it has registered
    matrix     the sequence

and merging active machines does nothing.  So machines only enter (`Lexicon.Enters`), except that the pass at the
start of an iteration marks those it expands; the rounds of the loop expand disjoint sets of machines, none of which
was marked before (`Rounds.fills`).
-/
import MeaningGraph.Proofs.Activation.Satisfaction
import MeaningGraph.Proofs.Activation.Success
import MeaningGraph.Proofs.Lexicon.Entering
import MeaningGraph.Proofs.Twin.Expand

namespace MeaningGraph

open Outcome (steps_of_ok bind_eq_of_ok answer? exists_of_answer?)
open Lexicon (Enters Gains InUse)

theorem Lexicon.admits_enters : Admits Enters :=
  ⟨enters_create, enters_append, enters_setControl, enters_addActive⟩

variable {l l' : Lexicon} {seq new : List MachineId} {c c' : Construction}

/-! ## What rules answer -/

theorem AppendRule.subset_act {r : AppendRule} (h : r.act seq l = .ok (some new) l') : new ⊆ seq := by
  by_cases hpair : ∃ first second, seq = [first, second]
  · obtain ⟨first, second, rfl⟩ := hpair
    rw [act_pair] at h
    split at h
    · obtain ⟨_, l₁, -, hend⟩ := steps_of_ok h
      cases hend
      unfold roles
      cases r.direction <;> simp
    · cases h
  · rw [act_of_not_lastCheck (lastCheck_of_ne_pair fun first second heq => hpair ⟨first, second, heq⟩)] at h
    cases h

theorem VerbRule.subset_order_of_act {r : VerbRule} (hl : l.InUse) (hseq : seq ⊆ l.order)
    (h : r.act seq l = .ok (some new) l') : new ⊆ l.order := by
  rcases act_cases h with ⟨hnone, -⟩ | ⟨token, ids, verb, slots, hsplit, hverb, -, hlink⟩
  · cases hnone
  · cases (linkAll_cases hlink).1
    refine List.cons_subset.2 ⟨?_, List.nil_subset _⟩
    cases token with
    | some token =>
      cases hverb
      exact hseq (List.mem_of_find?_eq_some (split_ok hsplit).1.symm)
    | none => exact (hl.views.listed verb).2 ⟨r.verb, List.mem_of_head? hverb⟩

theorem TriggerRule.subset_order_of_act {r : TriggerRule} (hl : l.InUse)
    (h : r.act seq l = .ok (some new) l') : new ⊆ l'.order := by
  rcases act_cases h with ⟨hnone, -⟩ | ⟨plugin, l₁, l₂, hnew, hcreate, hhold, hadd⟩
  · cases hnone
  · cases hnew
    have hcreated : Gains l l₁ := (Lexicon.gains_create _ _).of_ok hcreate
    have hheld : Gains l₁ l₂ := (within_hold Lexicon.admits_gains plugin seq).of_ok hhold
    exact (Gains.inUse (hcreated.trans hheld) hl).subset_order_addActive hadd

namespace Construction

/-- What a rule answers for active machines is active. -/
theorem subset_order_of_act (hl : l.InUse) (hseq : seq ⊆ l.order)
    (h : Rule.act seq (c, l) = .ok (some new) (c', l')) : new ⊆ l'.order := by
  have hgains : Gains l l' := by
    have hstate := act_lexicon Lexicon.admits_gains seq c l
    rwa [h] at hstate
  cases c with
  | append r =>
    rw [act_append] at h
    obtain ⟨l₁, hact, heq⟩ := Rule.onPart_ok h
    cases heq
    exact fun id hid => hgains.mem_order (hseq (AppendRule.subset_act hact hid))
  | verb r =>
    rw [act_verb] at h
    obtain ⟨l₁, hact, heq⟩ := Rule.onPart_ok h
    cases heq
    exact fun id hid => hgains.mem_order (VerbRule.subset_order_of_act hl hseq hact hid)
  | trigger r =>
    rw [act_trigger] at h
    obtain ⟨l₁, hact, heq⟩ := Rule.onPart_ok h
    cases heq
    exact TriggerRule.subset_order_of_act hl hact
  | avm r =>
    rw [act_avm] at h
    injection h with hanswer hstate
    cases hstate
    exact fun id hid => hseq (AvmRule.subset_act r hanswer hid)

theorem exists_of_kind_chunk (h : Rule.kind c = .chunk) : ∃ r, c = .append r := by
  cases c with
  | append r => exact ⟨r, rfl⟩
  | verb r => cases h
  | trigger r => cases h
  | avm r => cases h

end Construction

namespace Chunk

variable {chunk : List MachineId}

/-! ## Chunks -/

/-- Reducing a chunk draws links, and puts no machine into it.  The budget may run out while rules still fire. -/
theorem reduce_enters (rules : List AppendRule) (budget : Nat) (hlive : ∀ id ∈ chunk, l.graph.contains id = true) :
    ∃ n rest l', reduce budget chunk (rules.map Construction.append, l) =
        .ok (n, rest) (rules.map Construction.append, l') ∧ Enters l l' ∧ rest ⊆ chunk := by
  induction budget generalizing l chunk with
  | zero => exact ⟨0, chunk, l, rfl, refl_of Enters l, List.Subset.refl _⟩
  | succ budget ih =>
    rw [reduce]
    rcases reduceIn_append rules hlive fun w hw => (Window.mem_all.1 hw).2 with
      ⟨-, hnone⟩ | ⟨mid, l₁, hsome, hreduced, henters⟩
    · rw [bind_eq_of_ok hnone]
      exact ⟨0, chunk, l, rfl, refl_of Enters l, List.Subset.refl _⟩
    · have hmid : mid ⊆ chunk := hreduced.sublist.subset
      have hlive₁ : ∀ id ∈ mid, l₁.graph.contains id = true := fun id hid =>
        (hreduced.contains id).trans (hlive id (hmid hid))
      obtain ⟨n, rest, l', hrest, henters', hsubset⟩ := ih hlive₁
      rw [bind_eq_of_ok hsome]
      refine ⟨n + 1, rest, l', (bind_eq_of_ok hrest).trans rfl, trans_of Enters henters henters', ?_⟩
      exact List.Subset.trans hsubset hmid

theorem reduceAll_enters (rules : List AppendRule) (budget : Nat) {chunks : List (List MachineId)} (hl : l.InUse)
    (hchunks : chunks.flatten ⊆ l.order) :
    ∃ n rests l', reduceAll budget chunks (rules.map Construction.append, l) =
        .ok (n, rests) (rules.map Construction.append, l') ∧ Enters l l' ∧ rests.flatten ⊆ chunks.flatten := by
  induction chunks generalizing l with
  | nil => exact ⟨0, [], l, rfl, refl_of Enters l, List.Subset.refl _⟩
  | cons chunk chunks ih =>
    rw [List.flatten_cons, List.append_subset] at hchunks
    obtain ⟨n, rest, l₁, hone, henters, hsubset⟩ :=
      reduce_enters rules budget fun id hid => hl.live id (hchunks.1 hid)
    obtain ⟨m, rests, l', hothers, henters', hsubset'⟩ :=
      ih (henters.gains.inUse hl) fun id hid => henters.gains.mem_order (hchunks.2 hid)
    refine ⟨n + m, rest :: rests, l', ?_, trans_of Enters henters henters', ?_⟩
    · rw [reduceAll, bind_eq_of_ok hone]
      exact (bind_eq_of_ok hothers).trans rfl
    · rw [List.flatten_cons, List.flatten_cons]
      exact List.append_subset.2 ⟨List.Subset.trans hsubset (List.subset_append_left _ _),
        List.Subset.trans hsubset' (List.subset_append_right _ _)⟩

end Chunk

namespace Activation

variable {o : Options} {n : Nat} {s t : Session Construction} {id : MachineId}

/-! ## The passes -/

/-- Merging what a rule answered changes nothing, so all that a semantic rule does is its act. -/
theorem fireFirst_enters {seqs : List (List MachineId)} {fired : Bool} {t : Construction × Lexicon} (hl : l.InUse)
    (hseqs : ∀ seq ∈ seqs, seq ⊆ l.order) (h : fireFirst seqs (c, l) = .ok fired t) : Enters l t.2 := by
  induction seqs generalizing c l with
  | nil =>
    cases h
    exact refl_of Enters l
  | cons seq seqs ih =>
    obtain ⟨answer, ⟨c₁, l₁⟩, hact, h⟩ := steps_of_ok h
    have henters : Enters l l₁ := by
      have hstate := Construction.act_lexicon Lexicon.admits_enters seq c l
      rwa [hact] at hstate
    have hl₁ : l₁.InUse := henters.gains.inUse hl
    obtain ⟨hseq, hseqs⟩ := List.forall_mem_cons.1 hseqs
    cases answer with
    | some new =>
      have hnew := Construction.subset_order_of_act hl hseq hact
      obtain ⟨_, s₂, hmerge, h⟩ := steps_of_ok h
      cases h
      obtain ⟨l₂, hmerged, rfl⟩ := Rule.onPart_ok hmerge
      rw [Lexicon.mergeActive_of_active fun id hid => hl₁.isActive (hnew hid)] at hmerged
      cases hmerged
      exact henters
    | none =>
      refine trans_of Enters henters (ih hl₁ ?_ h)
      exact fun seq hseq id hid => henters.gains.mem_order (hseqs seq hseq hid)

theorem fire_enters {fired : Bool} (hl : l.InUse) (hc : Rule.kind c ≠ .avm)
    (h : fire n (c, l) = .ok fired (c', l')) : Enters l l' := by
  obtain ⟨out, ⟨c₁, l₁⟩, hcandidates, hfire⟩ := steps_of_ok (x := candidates [] none _) h
  obtain ⟨rfl, -, -, hout⟩ := candidates_ok hc (fun b hb => by cases hb) hcandidates
  refine fireFirst_enters hl (fun seq hseq => ?_) hfire
  rw [hout] at hseq
  exact (mem_arrangementsUpTo_iff.1 (List.mem_of_mem_filter hseq)).2.2.subset

theorem forEach_fire_enters {rs rs' : List Construction} {fired : List Bool} (hl : l.InUse)
    (hrs : ∀ c ∈ rs, Rule.kind c ≠ .avm) (h : RulesM.forEach (fire n) rs l = .ok fired (rs', l')) :
    Enters l l' := by
  induction rs generalizing l fired rs' with
  | nil =>
    cases h
    exact refl_of Enters _
  | cons c rs ih =>
    obtain ⟨b, c', l₁, bs, cs, l₂, hone, hrest, rfl, heq⟩ := RulesM.forEach_cons_ok h
    cases heq
    obtain ⟨hc, hrs⟩ := List.forall_mem_cons.1 hrs
    have henters := fire_enters hl hc hone
    exact trans_of Enters henters (ih (henters.gains.inUse hl) hrs hrest)

theorem expandEach_marks {ids : List MachineId} {u : Unit} (h : expandEach ids l = .ok u l') :
    Gains l l' ∧ ∀ id, l'.Marked id ↔ l.Marked id ∨ id ∈ ids := by
  induction ids generalizing l with
  | nil =>
    cases h
    exact ⟨.refl, fun id => by simp⟩
  | cons first ids ih =>
    obtain ⟨new, l₁, hfirst, hrest⟩ := steps_of_ok h
    obtain ⟨hgains, hmarked⟩ := ih hrest
    refine ⟨Relation.ReflTransGen.trans ((Lexicon.gains_expand first).of_ok hfirst) hgains, fun id => ?_⟩
    rw [hmarked, Lexicon.marked_expand hfirst, List.mem_cons, or_assoc]

theorem expandPass_marks (h : expandPass l = .ok n l') :
    n = l.unexpanded.length ∧ Gains l l' ∧ ∀ id, l'.Marked id ↔ l.Marked id ∨ id ∈ l.unexpanded := by
  obtain ⟨_, l₁, heach, hend⟩ := steps_of_ok (x := expandEach l.unexpanded) h
  cases hend
  exact ⟨rfl, expandEach_marks heach⟩

/-- Nothing goes in an iteration, and it marks the machines that are unexpanded when it starts. -/
theorem iterate_marks {it : Iteration} {satisfied : Bool} (hl : s.lexicon.InUse) (hsorted : s.rules.Sorted)
    (h : iterate o s = .ok (it, satisfied) t) :
    it.expanded = s.lexicon.unexpanded.length ∧ it.active = t.lexicon.order.length ∧
      Gains s.lexicon t.lexicon ∧
      ∀ id, t.lexicon.Marked id ↔ s.lexicon.Marked id ∨ id ∈ s.lexicon.unexpanded := by
  obtain ⟨expanded, l₁, fired, semantic, l₂, filled, avm, l₃, activated, l₄, hexpand, hfire, hoffer,
    hactivate, hx, rfl⟩ := iterate_ok h
  cases hx
  obtain ⟨rfl, hgains, hmarked⟩ := expandPass_marks hexpand
  have hsemantic : ∀ c ∈ s.rules.semantic, Rule.kind c ≠ .avm := by
    intro c hc heq
    rw [hsorted .semantic c hc] at heq
    cases heq
  have hfired : Enters l₁ l₂ := forEach_fire_enters (hgains.inUse hl) hsemantic hfire
  obtain ⟨rfl, -⟩ := filledSlots_offerAll (hsorted .avm) hoffer
  have hactivated : Enters l₃ l₄ := Lexicon.enters_activate.of_ok hactivate
  have henters := trans_of Enters hfired hactivated
  refine ⟨rfl, rfl, hgains.trans henters.gains, fun id => ?_⟩
  rw [henters.marked, hmarked]

/-! ## The rounds -/

/-- The machines that the rounds expand: in each those that are unexpanded when it starts. -/
def expansions (rounds : List (Round Construction)) : List MachineId :=
  rounds.flatMap (·.before.lexicon.unexpanded)

/-- What rounds do to the working set: it only grows, and they expand machines that were not expanded, each of
them once. -/
structure Fills (s : Session Construction) (rounds : List (Round Construction)) (t : Session Construction) :
    Prop where
  gains : Gains s.lexicon t.lexicon
  marked : ∀ id, t.lexicon.Marked id ↔ s.lexicon.Marked id ∨ id ∈ expansions rounds
  fresh : ∀ id ∈ expansions rounds, ¬ s.lexicon.Marked id
  nodup : (expansions rounds).Nodup
  expanded : ∀ r ∈ rounds, r.counters.expanded = r.before.lexicon.unexpanded.length
  atLeast : ∀ r ∈ rounds, s.lexicon.order.length ≤ r.counters.active
  growing : (rounds.map (·.counters.active)).Pairwise (· ≤ ·)

theorem Fills.nil (s : Session Construction) : Fills s [] s where
  gains := .refl
  marked id := by simp [expansions]
  fresh _ hid := (List.not_mem_nil hid).elim
  nodup := List.nodup_nil
  expanded _ hr := (List.not_mem_nil hr).elim
  atLeast _ hr := (List.not_mem_nil hr).elim
  growing := .nil

theorem Fills.cons {u : Session Construction} {rounds : List (Round Construction)} {it : Iteration}
    {satisfied : Bool} (hl : s.lexicon.InUse) (hsorted : s.rules.Sorted)
    (h : iterate o s = .ok (it, satisfied) t) (hrest : Fills t rounds u) :
    Fills s (⟨s, it, satisfied, t⟩ :: rounds) u := by
  obtain ⟨hexpanded, hactive, hgains, hmarked⟩ := iterate_marks hl hsorted h
  have hlonger : s.lexicon.order.length ≤ t.lexicon.order.length := hgains.order_grows.length_le
  have hall : expansions (⟨s, it, satisfied, t⟩ :: rounds) = s.lexicon.unexpanded ++ expansions rounds := rfl
  refine ⟨hgains.trans hrest.gains, fun id => ?_, ?_, ?_, ?_, ?_, ?_⟩
  · rw [hrest.marked, hmarked, hall, List.mem_append, or_assoc]
  · rw [hall]
    refine List.forall_mem_append.2 ⟨fun id => hl.not_marked_of_mem_unexpanded, fun id hid hbefore => ?_⟩
    exact hrest.fresh id hid ((hmarked id).2 (.inl hbefore))
  · -- what the first round expands is marked when the others start
    rw [hall, List.nodup_append']
    refine ⟨hl.nodup_expanded false, hrest.nodup, fun id hid hlater => ?_⟩
    exact hrest.fresh id hlater ((hmarked id).2 (.inr hid))
  · exact List.forall_mem_cons.2 ⟨hexpanded, hrest.expanded⟩
  · refine List.forall_mem_cons.2 ⟨hactive ▸ hlonger, fun r hr => ?_⟩
    exact hlonger.trans (hrest.atLeast r hr)
  · refine List.pairwise_cons.2 ⟨?_, hrest.growing⟩
    rw [List.forall_mem_map]
    intro r hr
    change it.active ≤ _
    rw [hactive]
    exact hrest.atLeast r hr

/-- The induction is on the rounds; what holds of each session they start from is that its active machines are live
and its rules in their places. -/
theorem Rounds.fills {rounds : List (Round Construction)} (h : Rounds o s rounds t) (hl : s.lexicon.InUse)
    (hsorted : s.rules.Sorted) : Fills s rounds t := by
  induction h with
  | nil s => exact .nil s
  | @cons s t u it satisfied rounds first rest ih =>
    obtain ⟨-, -, hgains, -⟩ := iterate_marks hl hsorted first
    have hprogram := ((within_iterate o).of_ok first).program
    exact .cons hl hsorted first (ih (hgains.inUse hl) (hsorted.of_program hprogram))

theorem Fills.perm {rounds : List (Round Construction)} (h : Fills s rounds t) (hs : s.lexicon.InUse) :
    (s.lexicon.expanded true ++ expansions rounds).Nodup ∧
      (s.lexicon.expanded true ++ expansions rounds).Perm (t.lexicon.expanded true) := by
  have ht := h.gains.inUse hs
  have hnodup : (s.lexicon.expanded true ++ expansions rounds).Nodup :=
    List.nodup_append'.2 ⟨hs.nodup_expanded true, h.nodup, fun id hid hlater =>
      h.fresh id hlater (hs.mem_expanded_iff.1 hid)⟩
  refine ⟨hnodup, (List.perm_ext_iff_of_nodup hnodup (ht.nodup_expanded true)).2 fun id => ?_⟩
  rw [List.mem_append, hs.mem_expanded_iff, ht.mem_expanded_iff, h.marked]

theorem Fills.sum_expanded {rounds : List (Round Construction)} (h : Fills s rounds t) :
    (rounds.map (·.counters.expanded)).sum = (expansions rounds).length := by
  rw [expansions, List.length_flatMap, List.map_congr_left h.expanded]

/-! ## The run -/

theorem within_seed (o : Options) (chunks : List (List MachineId)) : Outcome.Within Session.Leads (seed o chunks) :=
  (Session.within_onLexicon (Lexicon.within_addActive _)).bind fun _ =>
    (Session.within_onLexicon (Lexicon.within_ask _)).bind fun _ =>
      Session.within_onKind (Chunk.within_reduceAll _ chunks) .chunk

/-- Seeding puts the machines of the chunks at the end of the order and marks none; the chunks are left with
machines that are active. -/
theorem seed_enters {chunks reduced : List (List MachineId)} (hl : s.lexicon.InUse) (hsorted : s.rules.Sorted)
    (h : seed o chunks s = .ok (n, reduced) t) :
    Enters s.lexicon t.lexicon ∧
      s.lexicon.order ++ (chunks.flatten.filter (· ∉ s.lexicon.order)).eraseDups <+: t.lexicon.order ∧
      reduced.flatten ⊆ t.lexicon.order := by
  obtain ⟨l₁, budget, hadd, -, hthen⟩ := seed_ok h
  obtain ⟨rs, l₂, hreduce, rfl⟩ := SessionM.onKind_ok hthen
  have hchunk : ∀ c ∈ s.rules.ofKind .chunk, ∃ r, c = Construction.append r := fun c hc =>
    Construction.exists_of_kind_chunk (hsorted .chunk c hc)
  obtain ⟨rules, hrules⟩ := Construction.exists_eq_map hchunk
  have hadded : Enters s.lexicon l₁ := (Lexicon.enters_addActive _).of_ok hadd
  obtain ⟨m, rests, l', hreduced, henters, hsubset⟩ :=
    Chunk.reduceAll_enters rules budget (hadded.gains.inUse hl) (hl.subset_order_addActive hadd)
  rw [hrules, hreduced] at hreduce
  cases hreduce
  refine ⟨trans_of Enters hadded henters, ?_, fun id hid => ?_⟩
  · rw [← hl.order_addActive hadd]
    exact henters.gains.order_grows
  · exact henters.gains.mem_order (hl.subset_order_addActive hadd (hsubset hid))

/-- From a lexicon that can be reached and whose active machines are live, a run that answers has only added to the
working set: the machines active at its start, and then those of the chunks that were not, stand in front in the
end.  The machines of the chunks it answers are live and active.  There are no fewer active machines after an
iteration than after the ones before it.  The iterations expand different machines, none of which was expanded at
the start, and these are all that are expanded in the end beside those that were then. -/
theorem run_only_adds (cs : List Construction) (l : Lexicon) (hl : l.Reachable)
    (hlive : ∀ id ∈ l.order, l.graph.contains id = true) (o : Options) (chunks : List (List MachineId))
    (outcome : Outcome) (s : Session Construction) (hrun : run o chunks ⟨l, .ofList cs⟩ = .ok outcome s) :
    l.order ++ (chunks.flatten.filter (· ∉ l.order)).eraseDups <+: s.lexicon.order ∧
    (∀ chunk ∈ outcome.chunks, ∀ id ∈ chunk,
      s.lexicon.graph.contains id = true ∧ s.lexicon.isActive id = true) ∧
    (outcome.iterations.map (·.active)).Pairwise (· ≤ ·) ∧
    (∃ s₀ rounds, seed o chunks ⟨l, .ofList cs⟩ = .ok (outcome.reductions, outcome.chunks) s₀ ∧
      Rounds o s₀ rounds s ∧ outcome.iterations = rounds.map (·.counters) ∧
      (∀ r ∈ rounds, r.counters.expanded = r.before.lexicon.unexpanded.length) ∧
      (l.expanded true ++ expansions rounds).Nodup ∧
      (l.expanded true ++ expansions rounds).Perm (s.lexicon.expanded true)) ∧
    (l.expanded true).length + (outcome.iterations.map (·.expanded)).sum = (s.lexicon.expanded true).length := by
  have hinUse : l.InUse := hl.inUse hlive
  obtain ⟨s₀, rounds, hseed, hrounds, -, hits, -⟩ := run_rounds hrun
  obtain ⟨henters, hfront, hchunks⟩ := seed_enters hinUse (RuleSet.sorted_ofList cs) hseed
  have hinUse₀ : s₀.lexicon.InUse := henters.gains.inUse hinUse
  have hsorted₀ := (RuleSet.sorted_ofList cs).of_program ((within_seed o chunks).of_ok hseed).program
  have hfills := hrounds.fills hinUse₀ hsorted₀
  have hinUse' : s.lexicon.InUse := hfills.gains.inUse hinUse₀
  -- seeding has expanded nothing
  have hperm₀ : (l.expanded true).Perm (s₀.lexicon.expanded true) :=
    (List.perm_ext_iff_of_nodup (hinUse.nodup_expanded true) (hinUse₀.nodup_expanded true)).2 fun id => by
      rw [hinUse.mem_expanded_iff, hinUse₀.mem_expanded_iff, henters.marked]
  obtain ⟨hnodup, hperm⟩ := hfills.perm hinUse₀
  have hall := hperm₀.append_right (expansions rounds)
  refine ⟨hfront.trans hfills.gains.order_grows, fun chunk hchunk id hid => ?_, ?_, ?_, ?_⟩
  · have hmem : id ∈ s.lexicon.order :=
      hfills.gains.mem_order (hchunks (List.mem_flatten.2 ⟨chunk, hchunk, hid⟩))
    exact ⟨hinUse'.live id hmem, hinUse'.isActive hmem⟩
  · rw [hits, List.map_map]
    exact hfills.growing
  · exact ⟨s₀, rounds, hseed, hrounds, hits, hfills.expanded, hall.nodup_iff.2 hnodup, hall.trans hperm⟩
  · rw [hits, List.map_map]
    change _ + (rounds.map (·.counters.expanded)).sum = _
    rw [hfills.sum_expanded, ← (hall.trans hperm).length_eq, List.length_append]

/-- The yard, after its track was made active and expanded. -/
def laidYard : Lexicon :=
  yard.replay [.addActive [⟨3, 1⟩], .expand ⟨3, 1⟩]

/-- The track stays in front of the train, which is the one machine that is expanded. -/
theorem run_only_adds_laidYard :
    laidYard.Reachable ∧ laidYard.order = [⟨3, 1⟩] ∧
    (∀ id ∈ laidYard.order, laidYard.graph.contains id = true) ∧
    ∃ outcome s, run {} [[⟨2, 1⟩, ⟨3, 1⟩]] ⟨laidYard, .ofList yardRules⟩ = .ok outcome s ∧
      outcome.iterations = [⟨1, 1, 0, 0, 2⟩, ⟨0, 0, 0, 0, 2⟩] ∧
      [⟨3, 1⟩, ⟨2, 1⟩] <+: s.lexicon.order ∧ (s.lexicon.expanded true).length = 2 := by
  have hreach : laidYard.Reachable := ⟨_, (Lexicon.replay_append _ _ _).symm⟩
  have hlive : ∀ id ∈ laidYard.order, laidYard.graph.contains id = true := by decide +kernel
  have hanswer : (answer? (run {} [[⟨2, 1⟩, ⟨3, 1⟩]] ⟨laidYard, .ofList yardRules⟩)).map (·.iterations) =
      some [⟨1, 1, 0, 0, 2⟩, ⟨0, 0, 0, 0, 2⟩] := by
    decide +kernel
  obtain ⟨outcome, houtcome, hiterations⟩ := Option.map_eq_some_iff.1 hanswer
  obtain ⟨s, hrun⟩ := exists_of_answer? houtcome
  obtain ⟨hfront, -, -, -, hcount⟩ := run_only_adds yardRules laidYard hreach hlive {} _ outcome s hrun
  have horder : laidYard.order = [⟨3, 1⟩] := by decide +kernel
  have hexpanded : laidYard.expanded true = [⟨3, 1⟩] := by decide +kernel
  rw [horder] at hfront
  rw [hexpanded, hiterations] at hcount
  exact ⟨hreach, horder, hlive, outcome, s, hrun, hiterations, hfront, hcount.symm⟩

end Activation

end MeaningGraph
