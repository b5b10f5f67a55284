/-
# The budget of the reductions

A run reduces each chunk as often as its budget says, which is worked out from the options and the chunks:

    budget = max maxIterations 1 * max machines 1        in words of 64 bits

An append rule takes two machines and leaves one, so a chunk of `n` machines is done after `n - 1` reductions at the
latest, and the product is never less than `n`.  A product that does not fit in a word is no budget: the run fails
(`Error.overflow`), and nothing is reduced.  With two machines:

| iterations | budget | the pair |
| :-- | :-- | :-- |
| 64 | 128 | is reduced |
| 2 ^ 63 - 1 | 2 ^ 64 - 2 | is reduced |
| 2 ^ 63 | none | stays as it is |

The chunks are reduced one after the other in one graph, and what is done stays done: a reduction draws a link and
changes nothing else (`Drawn`), matchers do not read links, and a rule acts on a pair as long as a link is missing.
-/
import MeaningGraph.NounPhrase
import MeaningGraph.Proofs.Activation.Rounds
import MeaningGraph.Proofs.Chunk
import MeaningGraph.Proofs.Lexicon.Ready
import MeaningGraph.Proofs.Rule.Append

namespace MeaningGraph

open Outcome (answer? bind_eq_of_ok exists_of_answer? steps_of_ok)

variable {g g' g'' : Graph} {l l' : Lexicon} {r : AppendRule} {seq chunk rest : List MachineId}
  {chunks : List (List MachineId)} {budget : Nat}

/-! ## Drawing links -/

namespace Graph

/-- Links have been drawn, and nothing else has changed. -/
structure Drawn (g g' : Graph) : Prop where
  relinked : Relinked g g'
  holds : ∀ p i c, g.Holds p i c → g'.Holds p i c

theorem Drawn.refl (g : Graph) : Drawn g g :=
  ⟨.refl g, fun _ _ _ hold => hold⟩

theorem Drawn.trans (h : Drawn g g') (h' : Drawn g' g'') : Drawn g g'' :=
  ⟨h.relinked.trans h'.relinked, fun p i c hold => h'.holds p i c (h.holds p i c hold)⟩

theorem Drawn.of_append {p c : MachineId} {i : Nat} (h : g.append p c i = .ok g') : Drawn g g' :=
  ⟨relinked_append h, fun _ _ _ hold => (holds_append h).2 (.inl hold)⟩

end Graph

open MeaningGraph.Graph (Drawn Relinked)

namespace AppendRule

theorem check_of_relinked (h : Relinked g g') (r : AppendRule) (seq : List MachineId) :
    r.check g' seq = r.check g seq := by
  have haccepts : ∀ (m : Matcher) (id : MachineId), m.accepts g' id = m.accepts g id := fun m id =>
    m.accepts_congr (h.name? id) (h.control? id)
  rw [Bool.eq_iff_iff, check_iff, check_iff]
  simp only [haccepts]

theorem lastCheck_of_drawn (h : Drawn g g') (hlast : r.lastCheck g seq = false) : r.lastCheck g' seq = false := by
  by_cases hpair : ∃ first second, seq = [first, second]
  · obtain ⟨first, second, rfl⟩ := hpair
    rw [← r.pair_roles] at hlast ⊢
    rw [Bool.eq_false_iff, Ne, lastCheck_pair_iff] at hlast ⊢
    rintro ⟨hne, hnew⟩
    exact hlast ⟨hne, fun hold => hnew (h.holds _ _ _ hold)⟩
  · exact lastCheck_of_ne_pair fun first second hseq => hpair ⟨first, second, hseq⟩

end AppendRule

namespace Chunk

variable {rules : List AppendRule}

/-! ## Rules that do not fire -/

theorem quiet_iff : Quiet r l seq ↔ r.check l.graph seq = false ∨ r.lastCheck l.graph seq = false := by
  constructor
  · intro hquiet
    refine or_iff_not_imp_left.2 fun hcheck => Bool.eq_false_iff.2 fun hlast => ?_
    rw [Bool.not_eq_false] at hcheck
    have hpair : ∃ first second, seq = [first, second] := AppendRule.exists_pair_of_check hcheck
    obtain ⟨first, second, rfl⟩ := hpair
    have hact := hquiet hcheck
    rw [AppendRule.act_pair, hlast, hcheck, Bool.and_self, if_pos rfl] at hact
    obtain ⟨_, _, -, hend⟩ := steps_of_ok hact
    cases hend
  · intro h _
    exact AppendRule.act_of_refused h

theorem Quiet.of_drawn (h : Quiet r l seq) (hdrawn : Drawn l.graph l'.graph) : Quiet r l' seq := by
  rw [quiet_iff] at h ⊢
  rw [AppendRule.check_of_relinked hdrawn.relinked]
  exact h.imp_right (AppendRule.lastCheck_of_drawn hdrawn)

/-- No rule fires on any window of the chunk. -/
def Done (rules : List AppendRule) (l : Lexicon) (chunk : List MachineId) : Prop :=
  ∀ r ∈ rules, ∀ window, window <:+: chunk → Quiet r l window

theorem Done.of_drawn (h : Done rules l chunk) (hdrawn : Drawn l.graph l'.graph) : Done rules l' chunk :=
  fun r hr window hwindow => (h r hr window hwindow).of_drawn hdrawn

theorem quiet_of_ne_pair (h : ∀ first second, seq ≠ [first, second]) : Quiet r l seq :=
  quiet_iff.2 (.inr (AppendRule.lastCheck_of_ne_pair h))

theorem done_of_short (h : chunk.length ≤ 1) : Done rules l chunk := by
  rintro r - window hwindow
  refine quiet_of_ne_pair ?_
  rintro first second rfl
  have hlength := hwindow.length_le
  simp only [List.length_cons, List.length_nil] at hlength
  omega

theorem done_of_all (h : ∀ w ∈ Window.all chunk, ∀ r ∈ rules, Quiet r l w.inside) : Done rules l chunk := by
  rintro r hr window ⟨before, after, hsplit⟩
  by_cases hwindow : window = []
  · refine quiet_of_ne_pair ?_
    rintro first second rfl
    cases hwindow
  · exact h ⟨before, window, after⟩ (Window.mem_all.2 ⟨hwindow, hsplit.symm⟩) r hr

/-! ## Reducing -/

theorem Fires.drawn {new : List MachineId} (h : Fires r l seq new l') : Drawn l.graph l'.graph := by
  obtain ⟨first, second, g', -, -, happend, -, rfl⟩ := h
  exact .of_append happend

/-- The induction is on the budget.  Each pass takes one machine out of the chunk, and where the budget ends there is
one left. -/
theorem reduce_done (rules : List AppendRule) (budget : Nat) (hlive : ∀ id ∈ chunk, l.graph.contains id = true)
    (hlength : chunk.length ≤ budget + 1) :
    ∃ n rest l', reduce budget chunk (rules.map Construction.append, l) =
        .ok (n, rest) (rules.map Construction.append, l') ∧ Drawn l.graph l'.graph ∧ Done rules l' rest := by
  induction budget generalizing l chunk with
  | zero => exact ⟨0, chunk, l, rfl, .refl _, done_of_short hlength⟩
  | succ budget ih =>
    rcases reduceIn_cases rules hlive fun w hw => (Window.mem_all.1 hw).2 with
      ⟨hquiet, hnone⟩ | ⟨w, hw, r, -, new, l₁, hsome, hfires⟩
    · refine ⟨0, chunk, l, ?_, .refl _, done_of_all hquiet⟩
      rw [reduce, bind_eq_of_ok hnone]
      rfl
    · have hreduced : Reduced chunk (w.splice new) 1 l.graph l₁.graph :=
        (Window.mem_all.1 hw).2 ▸ hfires.reduced.splice
      have hshorter := hreduced.length
      have hlive₁ : ∀ id ∈ w.splice new, l₁.graph.contains id = true := fun id hid =>
        (hreduced.contains id).trans (hlive id (hreduced.sublist.subset hid))
      obtain ⟨n, rest, l', hrun, hdrawn, hdone⟩ := ih hlive₁ (by omega)
      refine ⟨n + 1, rest, l', ?_, hfires.drawn.trans hdrawn, hdone⟩
      rw [reduce, bind_eq_of_ok hsome]
      exact (bind_eq_of_ok hrun).trans rfl

/-- The induction is on the chunks; the first is done, and stays so while the others are reduced. -/
theorem reduceAll_done (rules : List AppendRule) (budget : Nat)
    (hlive : ∀ chunk ∈ chunks, ∀ id ∈ chunk, l.graph.contains id = true)
    (hlength : ∀ chunk ∈ chunks, chunk.length ≤ budget + 1) :
    ∃ n rests l', reduceAll budget chunks (rules.map Construction.append, l) =
        .ok (n, rests) (rules.map Construction.append, l') ∧ Drawn l.graph l'.graph ∧
      ∀ rest ∈ rests, Done rules l' rest := by
  induction chunks generalizing l with
  | nil => exact ⟨0, [], l, rfl, .refl _, fun _ hrest => (List.not_mem_nil hrest).elim⟩
  | cons chunk chunks ih =>
    obtain ⟨hchunk, hchunks⟩ := List.forall_mem_cons.1 hlive
    obtain ⟨hfirst, hothers⟩ := List.forall_mem_cons.1 hlength
    obtain ⟨n, rest, l₁, hone, hdrawn, hdone⟩ := reduce_done rules budget hchunk hfirst
    have hlive₁ : ∀ chunk ∈ chunks, ∀ id ∈ chunk, l₁.graph.contains id = true := fun chunk hchunk id hid =>
      (hdrawn.relinked.contains id).trans (hchunks chunk hchunk id hid)
    obtain ⟨m, rests, l', hrun, hdrawn', hdone'⟩ := ih hlive₁ hothers
    refine ⟨n + m, rest :: rests, l', ?_, hdrawn.trans hdrawn', List.forall_mem_cons.2 ⟨?_, hdone'⟩⟩
    · rw [reduceAll, bind_eq_of_ok hone]
      exact (bind_eq_of_ok hrun).trans rfl
    · exact hdone.of_drawn hdrawn'

end Chunk

theorem Lexicon.contains_of_addActive {ids : List MachineId} {u : Unit} (h : addActive ids l = .ok u l') :
    ∀ id ∈ ids, l.graph.contains id = true := by
  induction ids generalizing l with
  | nil => exact fun _ hid => (List.not_mem_nil hid).elim
  | cons id ids ih =>
    obtain ⟨name, l₁, hname, hrest⟩ := steps_of_ok h
    obtain ⟨hname, rfl⟩ := ask_ok hname
    obtain ⟨_, l₂, hregister, hrest⟩ := steps_of_ok hrest
    cases hregister
    have hrests := ih hrest
    rw [graph_register] at hrests
    refine List.forall_mem_cons.2 ⟨?_, hrests⟩
    obtain ⟨m, hm, -⟩ := Option.map_eq_some_iff.1 (Graph.name?_of_name hname)
    exact Graph.contains_iff.2 ⟨m, hm⟩

namespace Activation

variable {o : Options} {s s₀ : Session Construction}

/-! ## The budget of a run -/

theorem length_le_of_reductionBudget (h : reductionBudget o chunks = .ok budget) (hchunk : chunk ∈ chunks) :
    chunk.length ≤ budget := by
  obtain ⟨-, rfl⟩ := reductionBudget_ok_iff.1 h
  calc chunk.length
    _ ≤ chunks.flatten.length := (List.sublist_flatten_of_mem hchunk).length_le
    _ ≤ max chunks.flatten.length 1 := Nat.le_max_left _ _
    _ ≤ max o.maxIterations 1 * max chunks.flatten.length 1 :=
      Nat.le_mul_of_pos_left _ (Nat.lt_of_lt_of_le Nat.one_pos (Nat.le_max_right _ _))

theorem live_of_seed {x : Nat × List (List MachineId)} (h : seed o chunks s = .ok x s₀) :
    ∀ chunk ∈ chunks, ∀ id ∈ chunk, s.lexicon.graph.contains id = true := by
  obtain ⟨l₁, budget, hadd, -, -⟩ := seed_ok h
  intro chunk hchunk id hid
  exact Lexicon.contains_of_addActive hadd id (List.mem_flatten.2 ⟨chunk, hchunk, hid⟩)

theorem seed_done {rules : List AppendRule} (hrules : s.rules.chunk = rules.map Construction.append)
    (hbudget : reductionBudget o chunks = .ok budget)
    (hlive : ∀ chunk ∈ chunks, ∀ id ∈ chunk, s.lexicon.graph.contains id = true) :
    ∃ n rests s₀, seed o chunks s = .ok (n, rests) s₀ ∧ ∀ rest ∈ rests, Chunk.Done rules s₀.lexicon rest := by
  obtain ⟨_, l₁, hadd, -⟩ := Lexicon.attains_addActive_flatten hlive
  rw [← Lexicon.graph_addActive hadd] at hlive
  obtain ⟨n, rests, l', hreduce, -, hdone⟩ := Chunk.reduceAll_done rules budget hlive fun chunk hchunk =>
    (length_le_of_reductionBudget hbudget hchunk).trans (Nat.le_succ budget)
  rw [← hrules] at hreduce
  refine ⟨n, rests, ⟨l', s.rules.put s.rules.chunk .chunk⟩, ?_, hdone⟩
  exact seed_of_ok hadd hbudget (SessionM.onKind_of_ok (s := { s with lexicon := l₁ }) (k := .chunk) hreduce)

/-- The budget of a run is the product, if this fits in a word, and then no chunk is longer.  Where the chunk rules
are append rules, all chunks of live machines are then reduced to the end: in the lexicon that the main loop starts
with, no rule fires on any window of what is left of them.  So it is in every run that answers.  Without a budget the
run fails, and has done no more than register the machines. -/
theorem reduced_within_budget (rules : List AppendRule) (s : Session Construction)
    (hrules : s.rules.chunk = rules.map Construction.append) (o : Options) (chunks : List (List MachineId)) :
    (∀ budget, reductionBudget o chunks = .ok budget ↔
      max o.maxIterations 1 * max chunks.flatten.length 1 < 2 ^ 64 ∧
        max o.maxIterations 1 * max chunks.flatten.length 1 = budget) ∧
    (∀ budget, reductionBudget o chunks = .ok budget → ∀ chunk ∈ chunks, chunk.length ≤ budget) ∧
    (∀ budget, reductionBudget o chunks = .ok budget →
      (∀ chunk ∈ chunks, ∀ id ∈ chunk, s.lexicon.graph.contains id = true) →
      ∃ n rests s₀, seed o chunks s = .ok (n, rests) s₀ ∧ ∀ rest ∈ rests, Chunk.Done rules s₀.lexicon rest) ∧
    (∀ outcome t, run o chunks s = .ok outcome t →
      ∃ s₀, seed o chunks s = .ok (outcome.reductions, outcome.chunks) s₀ ∧
        ∀ rest ∈ outcome.chunks, Chunk.Done rules s₀.lexicon rest) ∧
    (2 ^ 64 ≤ max o.maxIterations 1 * max chunks.flatten.length 1 →
      (∀ chunk ∈ chunks, ∀ id ∈ chunk, s.lexicon.graph.contains id = true) →
      ∃ l, Lexicon.addActive chunks.flatten s.lexicon = .ok () l ∧
        run o chunks s = .error .overflow { s with lexicon := l }) := by
  refine ⟨fun _ => reductionBudget_ok_iff, fun _ h chunk hchunk => length_le_of_reductionBudget h hchunk,
    fun _ h hlive => seed_done hrules h hlive, fun outcome t hrun => ?_, fun h hlive => ?_⟩
  · obtain ⟨s₀, rounds, hseed, -⟩ := run_rounds hrun
    obtain ⟨l, budget, -, hbudget, -⟩ := seed_ok hseed
    obtain ⟨n, rests, s₁, hseed', hdone⟩ := seed_done hrules hbudget (live_of_seed hseed)
    rw [hseed] at hseed'
    cases hseed'
    exact ⟨s₀, hseed, hdone⟩
  · obtain ⟨_, l, hadd, -⟩ := Lexicon.attains_addActive_flatten hlive
    exact ⟨l, hadd, run_of_overflow hadd h⟩

/-- An article and a noun, with the rules of noun phrases. -/
def articleAndNoun : Session Construction where
  lexicon := Lexicon.empty.replay [.create "the" (some (.pos "ART")), .create "train" (some (.pos "NOUN"))]
  rules := .ofList (NounPhrase.rules.map .append)

/-- The article goes below the noun, with 64 iterations and with as many as leave room for two machines. -/
theorem reduced_within_budget_articleAndNoun :
    articleAndNoun.rules.chunk = NounPhrase.rules.map Construction.append ∧
    reductionBudget {} [[⟨0, 1⟩, ⟨1, 1⟩]] = .ok 128 ∧
    reductionBudget { maxIterations := 2 ^ 63 - 1 } [[⟨0, 1⟩, ⟨1, 1⟩]] = .ok (2 ^ 64 - 2) ∧
    ∀ o ∈ [{}, { maxIterations := 2 ^ 63 - 1 }], ∃ outcome t s₀,
      run o [[⟨0, 1⟩, ⟨1, 1⟩]] articleAndNoun = .ok outcome t ∧ outcome.chunks = [[⟨1, 1⟩]] ∧
      seed o [[⟨0, 1⟩, ⟨1, 1⟩]] articleAndNoun = .ok (outcome.reductions, outcome.chunks) s₀ ∧
      ∀ rest ∈ outcome.chunks, Chunk.Done NounPhrase.rules s₀.lexicon rest := by
  have hrules : articleAndNoun.rules.chunk = NounPhrase.rules.map Construction.append := rfl
  refine ⟨hrules, rfl, rfl, fun o ho => ?_⟩
  have hanswer : (answer? (run o [[⟨0, 1⟩, ⟨1, 1⟩]] articleAndNoun)).map (·.chunks) = some [[⟨1, 1⟩]] := by
    rcases List.mem_pair.1 ho with rfl | rfl <;> decide +kernel
  obtain ⟨outcome, hrun, hchunks⟩ := Option.map_eq_some_iff.1 hanswer
  obtain ⟨t, hrun⟩ := exists_of_answer? hrun
  obtain ⟨-, -, -, hdone, -⟩ := reduced_within_budget NounPhrase.rules articleAndNoun hrules o [[⟨0, 1⟩, ⟨1, 1⟩]]
  obtain ⟨s₀, hseed, hdone⟩ := hdone outcome t hrun
  exact ⟨outcome, t, s₀, hrun, hchunks, hseed, hdone⟩

/-- One iteration more, and the run fails.  The rule for articles would still fire on the pair. -/
theorem overflow_articleAndNoun :
    2 ^ 63 < wordSize ∧ wordSize ≤ max (2 ^ 63) 1 * max [[(⟨0, 1⟩ : MachineId), ⟨1, 1⟩]].flatten.length 1 ∧
    ∃ l, run { maxIterations := 2 ^ 63 } [[⟨0, 1⟩, ⟨1, 1⟩]] articleAndNoun =
        .error .overflow { articleAndNoun with lexicon := l } ∧
      NounPhrase.detNoun ∈ NounPhrase.rules ∧ ¬ Chunk.Quiet NounPhrase.detNoun l [⟨0, 1⟩, ⟨1, 1⟩] := by
  have hlive : ∀ chunk ∈ [[(⟨0, 1⟩ : MachineId), ⟨1, 1⟩]], ∀ id ∈ chunk,
      articleAndNoun.lexicon.graph.contains id = true := by decide +kernel
  have hoverflow : wordSize ≤ max (2 ^ 63) 1 * max [[(⟨0, 1⟩ : MachineId), ⟨1, 1⟩]].flatten.length 1 := by decide
  obtain ⟨_, l, hadd, -⟩ := Lexicon.attains_addActive_flatten hlive
  have hchecks : NounPhrase.detNoun.check articleAndNoun.lexicon.graph [⟨0, 1⟩, ⟨1, 1⟩] = true ∧
      NounPhrase.detNoun.lastCheck articleAndNoun.lexicon.graph [⟨0, 1⟩, ⟨1, 1⟩] = true := by decide +kernel
  refine ⟨by decide, hoverflow, l, run_of_overflow hadd hoverflow, List.mem_cons_self, ?_⟩
  rw [Chunk.quiet_iff, Lexicon.graph_addActive hadd, hchecks.1, hchecks.2]
  decide

end Activation

end MeaningGraph
