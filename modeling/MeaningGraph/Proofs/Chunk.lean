/-
# Chunk reduction loses nothing

An append rule that fires on a window takes one machine out of the chunk and hangs it below the other:

    [the, old, train]
      adj_noun   train ─▶ old             [the, train]
      det_noun   train ─▶ old, the        [train]

So every reduction makes the chunk one shorter and loses none of its machines, as long as one looks below those
that are left; a head that becomes a modifier later takes along what it holds.  `Reduced` says this of any
number of reductions, with `refl`, `trans` and the passage from a window to the chunk around it.  In the lexicon
only the links are new (`Lexicon.Enters`).

A rule that does not fire is `Quiet`: the check refuses the window, or the rule answers nothing, and then it has
left no trace.  A pass over the windows in which no rule fires has thus found all rules quiet on all windows, and
that in the graph in which it ends; and as a pass that fires shortens the chunk, there are fewer of these than the
chunk has machines.
-/
import MeaningGraph.Chunk
import MeaningGraph.Proofs.Activation.Steps
import MeaningGraph.Proofs.Graph.Fold
import MeaningGraph.Proofs.Graph.Isomorphism
import MeaningGraph.Proofs.Lexicon.Entering
import MeaningGraph.Proofs.Rule.Linked

namespace MeaningGraph

open Outcome (bind_eq_of_ok)
open Lexicon (Enters)

/-! ## Windows -/

namespace Window

variable {α : Type} {as : List α} {w : Window α}

theorem mem_all : w ∈ all as ↔ w.inside ≠ [] ∧ as = w.before ++ w.inside ++ w.after := by
  simp only [all, ofLength, List.mem_flatMap, List.mem_reverse, List.mem_range, List.mem_map]
  constructor
  · rintro ⟨n, hn, start, hstart, rfl⟩
    refine ⟨?_, ?_⟩
    · refine List.ne_nil_of_length_pos ?_
      simp only [slice, List.length_take, List.length_drop]
      omega
    · rw [slice, List.append_assoc, ← List.drop_drop, List.take_append_drop, List.take_append_drop]
  · rintro ⟨hne, rfl⟩
    have hpos := List.length_pos_of_ne_nil hne
    refine ⟨w.inside.length - 1, ?_, w.before.length, ?_, ?_⟩
    · simp only [List.length_append]
      omega
    · simp only [List.length_append]
      omega
    · simp [slice, Nat.sub_add_cancel hpos]

end Window

variable {g g₁ g' : Graph} {l l' : Lexicon} {chunk mid rest seq new : List MachineId} {n m : Nat}
  {r : AppendRule} {rules : List AppendRule}

/-! ## What reductions keep -/

namespace Graph

theorem Below.mono {root id : MachineId} (hholds : ∀ p i c, g.Holds p i c → g'.Holds p i c)
    (h : g.Below root id) : g'.Below root id := by
  refine Relation.ReflTransGen.mono ?_ _ _ h
  rintro p c ⟨i, hc⟩
  exact ⟨i, hholds p i c hc⟩

end Graph

namespace Chunk

/-- After `n` reductions `n` machines are out of the chunk, and these are below those that are left. -/
structure Reduced (chunk rest : List MachineId) (n : Nat) (g g' : Graph) : Prop where
  sublist : rest.Sublist chunk
  length : n + rest.length = chunk.length
  below : ∀ id ∈ chunk, ∃ head ∈ rest, g'.Below head id
  holds : ∀ p i c, g.Holds p i c → g'.Holds p i c
  contains : ∀ id, g'.contains id = g.contains id

namespace Reduced

theorem refl (chunk : List MachineId) (g : Graph) : Reduced chunk chunk 0 g g where
  sublist := List.Sublist.refl chunk
  length := Nat.zero_add _
  below id hid := ⟨id, hid, .refl⟩
  holds _ _ _ hold := hold
  contains _ := rfl

theorem trans (h : Reduced chunk mid n g g₁) (h' : Reduced mid rest m g₁ g') :
    Reduced chunk rest (m + n) g g' where
  sublist := h'.sublist.trans h.sublist
  length := by
    have := h.length
    have := h'.length
    omega
  below id hid := by
    obtain ⟨head, hhead, hid⟩ := h.below id hid
    obtain ⟨top, htop, hhead⟩ := h'.below head hhead
    exact ⟨top, htop, hhead.trans (hid.mono h'.holds)⟩
  holds p i c hold := h'.holds p i c (h.holds p i c hold)
  contains id := (h'.contains id).trans (h.contains id)

theorem ne_nil (h : Reduced chunk rest n g g') (hne : chunk ≠ []) : rest ≠ [] := by
  obtain ⟨id, hid⟩ := List.exists_mem_of_ne_nil chunk hne
  obtain ⟨head, hhead, -⟩ := h.below id hid
  exact List.ne_nil_of_mem hhead

theorem splice {w : Window MachineId} (h : Reduced w.inside new n g g') :
    Reduced (w.before ++ w.inside ++ w.after) (w.splice new) n g g' where
  sublist := ((List.Sublist.refl w.before).append h.sublist).append (List.Sublist.refl w.after)
  length := by
    have := h.length
    simp only [Window.splice, List.length_append]
    omega
  below id hid := by
    simp only [Window.splice, List.mem_append] at hid ⊢
    rcases hid with (hid | hid) | hid
    · exact ⟨id, .inl (.inl hid), .refl⟩
    · obtain ⟨head, hhead, hbelow⟩ := h.below id hid
      exact ⟨head, .inl (.inr hhead), hbelow⟩
    · exact ⟨id, .inr hid, .refl⟩
  holds := h.holds
  contains := h.contains

theorem of_append {first second : MachineId}
    (happend : g.append (r.roles first second).2 (r.roles first second).1 r.partition = .ok g') :
    Reduced [first, second] [(r.roles first second).2] 1 g g' where
  sublist := by
    unfold AppendRule.roles
    cases r.direction <;> simp
  length := rfl
  below id hid := by
    refine ⟨_, List.mem_cons_self, ?_⟩
    have hold : g'.Holds (r.roles first second).2 r.partition (r.roles first second).1 :=
      (Graph.holds_append happend).2 (.inr ⟨rfl, rfl, rfl⟩)
    have hmem : id = (r.roles first second).2 ∨ id = (r.roles first second).1 := by
      unfold AppendRule.roles
      cases r.direction <;> simpa [or_comm] using hid
    rcases hmem with rfl | rfl
    · exact .refl
    · exact .single ⟨_, hold⟩
  holds _ _ _ hold := (Graph.holds_append happend).2 (.inl hold)
  contains _ := Graph.contains_append happend

end Reduced

/-! ## One window -/

/-- The check refuses the sequence, or the rule answers nothing and leaves everything as it is. -/
def Quiet (r : AppendRule) (l : Lexicon) (seq : List MachineId) : Prop :=
  r.check l.graph seq = true → r.act seq l = .ok none l

/-- The rule takes the pair and appends the one machine to the other, which is left in place of both. -/
def Fires (r : AppendRule) (l : Lexicon) (seq new : List MachineId) (l' : Lexicon) : Prop :=
  ∃ first second g', seq = [first, second] ∧ r.check l.graph seq = true ∧
    l.graph.append (r.roles first second).2 (r.roles first second).1 r.partition = .ok g' ∧
    new = [(r.roles first second).2] ∧ l' = { l with graph := g' }

theorem Fires.reduced (h : Fires r l seq new l') : Reduced seq new 1 l.graph l'.graph := by
  obtain ⟨first, second, g', rfl, -, happend, rfl, rfl⟩ := h
  exact .of_append happend

theorem Fires.enters (h : Fires r l seq new l') : Enters l l' := by
  obtain ⟨first, second, g', -, -, happend, -, rfl⟩ := h
  exact Lexicon.Gain.enters (.append happend) rfl

/-- On live machines a rule is quiet, or it fires. -/
theorem quiet_or_act (hlive : ∀ id ∈ seq, l.graph.contains id = true) :
    r.act seq l = .ok none l ∨ ∃ new l', r.act seq l = .ok (some new) l' ∧ Fires r l seq new l' := by
  by_cases hpair : ∃ first second, seq = [first, second]
  · obtain ⟨first, second, rfl⟩ := hpair
    rw [AppendRule.act_pair]
    split
    · rename_i htaken
      have hhead : (r.roles first second).2 ∈ [first, second] := by
        unfold AppendRule.roles
        cases r.direction <;> simp
      obtain ⟨g', happend⟩ := Graph.exists_append (hlive _ hhead)
        (hlive _ (r.roles_mem first second)) r.partition
      refine .inr ⟨_, { l with graph := g' }, bind_eq_of_ok (Lexicon.changeGraph_of_ok happend), ?_⟩
      exact ⟨first, second, g', rfl, (Bool.and_eq_true_iff.1 htaken).2, happend, rfl, rfl⟩
    · exact .inl rfl
  · refine .inl (AppendRule.act_of_not_lastCheck (AppendRule.lastCheck_of_ne_pair ?_))
    exact fun first second hseq => hpair ⟨first, second, hseq⟩

theorem reduceWith_append (r : AppendRule) (hlive : ∀ id ∈ seq, l.graph.contains id = true) :
    (Quiet r l seq ∧ reduceWith seq (Construction.append r, l) = .ok none (.append r, l)) ∨
      ∃ new l', reduceWith seq (Construction.append r, l) = .ok (some new) (.append r, l') ∧
        Fires r l seq new l' := by
  have hcheck : Rule.checkNow seq (Construction.append r, l) = .ok (r.check l.graph seq) (.append r, l) := rfl
  rw [reduceWith, bind_eq_of_ok hcheck]
  cases haccepted : r.check l.graph seq with
  | false =>
    refine .inl ⟨?_, rfl⟩
    intro h
    rw [haccepted] at h
    cases h
  | true =>
    rw [if_pos rfl]
    rcases quiet_or_act (r := r) hlive with hact | ⟨new, l', hact, hfires⟩
    · refine .inl ⟨fun _ => hact, ?_⟩
      have hrule : Rule.act seq (Construction.append r, l) = .ok none (.append r, l) := by
        rw [Construction.act_append, Rule.onPart_of_ok hact]
      exact bind_eq_of_ok hrule
    · refine .inr ⟨new, l', ?_, hfires⟩
      have hrule : Rule.act seq (Construction.append r, l) = .ok (some new) (.append r, l') := by
        rw [Construction.act_append, Rule.onPart_of_ok hact]
      -- what is put in the place of the window is shorter
      have hne : new ≠ seq := by
        rintro rfl
        have := hfires.reduced.length
        omega
      rw [bind_eq_of_ok hrule]
      simp only [if_neg hne]
      rfl

theorem firstOf_append (rules : List AppendRule) (hlive : ∀ id ∈ seq, l.graph.contains id = true) :
    ((∀ r ∈ rules, Quiet r l seq) ∧
      RulesM.firstOf (reduceWith seq) (rules.map Construction.append) l =
        .ok none (rules.map Construction.append, l)) ∨
      ∃ r ∈ rules, ∃ new l', RulesM.firstOf (reduceWith seq) (rules.map Construction.append) l =
          .ok (some new) (rules.map Construction.append, l') ∧ Fires r l seq new l' := by
  induction rules with
  | nil => exact .inl ⟨fun _ hr => (List.not_mem_nil hr).elim, rfl⟩
  | cons r rules ih =>
    rw [List.map_cons]
    rcases reduceWith_append r hlive with ⟨hquiet, hnone⟩ | ⟨new, l', hsome, hfires⟩
    · rw [RulesM.firstOf_cons_none hnone]
      rcases ih with ⟨hrest, hend⟩ | ⟨r', hr', new, l', hsome, hfires⟩
      · rw [hend]
        exact .inl ⟨List.forall_mem_cons.2 ⟨hquiet, hrest⟩, rfl⟩
      · rw [hsome]
        exact .inr ⟨r', List.mem_cons_of_mem r hr', new, l', rfl, hfires⟩
    · exact .inr ⟨r, List.mem_cons_self, new, l', RulesM.firstOf_cons_some hsome, hfires⟩

/-! ## The chunk -/

theorem reduceIn_cases (rules : List AppendRule) (hlive : ∀ id ∈ chunk, l.graph.contains id = true)
    {ws : List (Window MachineId)} (hws : ∀ w ∈ ws, chunk = w.before ++ w.inside ++ w.after) :
    ((∀ w ∈ ws, ∀ r ∈ rules, Quiet r l w.inside) ∧
      reduceIn ws (rules.map Construction.append, l) = .ok none (rules.map Construction.append, l)) ∨
      ∃ w ∈ ws, ∃ r ∈ rules, ∃ new l', reduceIn ws (rules.map Construction.append, l) =
          .ok (some (w.splice new)) (rules.map Construction.append, l') ∧ Fires r l w.inside new l' := by
  induction ws with
  | nil => exact .inl ⟨fun _ hw => (List.not_mem_nil hw).elim, rfl⟩
  | cons w ws ih =>
    obtain ⟨hw, hws⟩ := List.forall_mem_cons.1 hws
    have hinside : ∀ id ∈ w.inside, l.graph.contains id = true := by
      intro id hid
      refine hlive id ?_
      rw [hw]
      exact List.mem_append_left _ (List.mem_append_right _ hid)
    rcases firstOf_append rules hinside with ⟨hquiet, hnone⟩ | ⟨r, hr, new, l', hsome, hfires⟩
    · have hfirst : RulesM.first (reduceWith w.inside) (rules.map Construction.append, l) = .ok none _ := hnone
      rw [reduceIn, bind_eq_of_ok hfirst]
      rcases ih hws with ⟨hrest, hend⟩ | ⟨w', hw', hfound⟩
      · exact .inl ⟨List.forall_mem_cons.2 ⟨hquiet, hrest⟩, hend⟩
      · exact .inr ⟨w', List.mem_cons_of_mem w hw', hfound⟩
    · have hfirst : RulesM.first (reduceWith w.inside) (rules.map Construction.append, l) =
          .ok (some new) _ := hsome
      refine .inr ⟨w, List.mem_cons_self, r, hr, new, l', ?_, hfires⟩
      rw [reduceIn, bind_eq_of_ok hfirst]
      rfl

/-- All rules are quiet on all windows, or the chunk is reduced in one. -/
theorem reduceIn_append (rules : List AppendRule) (hlive : ∀ id ∈ chunk, l.graph.contains id = true)
    {ws : List (Window MachineId)} (hws : ∀ w ∈ ws, chunk = w.before ++ w.inside ++ w.after) :
    ((∀ w ∈ ws, ∀ r ∈ rules, Quiet r l w.inside) ∧
      reduceIn ws (rules.map Construction.append, l) = .ok none (rules.map Construction.append, l)) ∨
      ∃ rest l', reduceIn ws (rules.map Construction.append, l) =
          .ok (some rest) (rules.map Construction.append, l') ∧ Reduced chunk rest 1 l.graph l'.graph ∧
          Enters l l' := by
  refine (reduceIn_cases rules hlive hws).imp_right ?_
  rintro ⟨w, hw, r, -, new, l', hsome, hfires⟩
  exact ⟨w.splice new, l', hsome, hws w hw ▸ hfires.reduced.splice, hfires.enters⟩

end Chunk

end MeaningGraph
