/-
# Appending: one link or nothing

An append rule takes a modifier and a head that stand in its order:

    check      the sequence is such a pair, and each of the two satisfies its matcher
    act        makes the head hold the modifier, if the check takes the pair, the two are different and the head
               does not hold the modifier yet; anything else it leaves alone

`act` reads the sequence with a transducer that links while it reads, before it is known whether the sequence is
accepted.  Still nothing is left of a sequence that is refused: the only operator stands on the edge into the final
state, so when it is carried out the sequence is accepted.

A rule has one transducer and uses it again for each call, so that a call finds in it the states and the machines
that the call before has left.  `checkFrom` and `actFrom` are the two with a transducer that is handed on like this.
Both start it afresh; all that differs from one use to the next is lost with that (`reset_afterCalls`), and the
outcome is that of `check` and `act`.
-/
import MeaningGraph.Proofs.Rule.Acts
import MeaningGraph.Proofs.Acceptor.History
import MeaningGraph.Proofs.Graph.Fold

namespace MeaningGraph

open Outcome (state)

/-! ## Transducers that are used again -/

namespace Transducer

variable {g : Graph} {t : Transducer} {id : MachineId} {seq : List MachineId}

/-- Reads a sequence without touching the graph, and stops when no state is left. -/
def scanDry (g : Graph) : List MachineId → EStateM Error Transducer Bool
  | [], t =>
    match t.core.inFinal with
    | .ok final => .ok final t
    | .error e => .error e t
  | id :: ids, t =>
    match t.readDry g id with
    | .ok t => if t.core.active.isEmpty then .ok false t else scanDry g ids t
    | .error e => .error e t

theorem scanDry_eq (h : t.core.fault? = none) (g : Graph) (seq : List MachineId) :
    ∃ t', scanDry g seq t = .ok (t.core.scan g seq).1 t' ∧ t'.reset = t.reset := by
  induction seq generalizing t with
  | nil =>
    refine ⟨t, ?_, rfl⟩
    rw [scanDry, Acceptor.inFinal_eq, h]
    rfl
  | cons id ids ih =>
    have hread : t.readDry g id = .ok { t with core := t.core.step g id, register := t.register ++ [id] } := by
      rw [readDry, Acceptor.read_eq, h]
      rfl
    rw [scanDry, hread, Acceptor.scan]
    simp only
    split
    · exact ⟨_, rfl, rfl⟩
    · exact ih (t := { t with core := t.core.step g id, register := t.register ++ [id] }) h

theorem reset_readLive (id : MachineId) (t : Transducer) (g : Graph) :
    (state (readLive id (t, g))).1.reset = t.reset := by
  rw [readLive]
  split
  · rfl
  · simp only
    split <;> rfl

/-- However far a live run gets, it only moves the transducer. -/
theorem reset_readAll (seq : List MachineId) (t : Transducer) (g : Graph) :
    (state (readAll seq (t, g))).1.reset = t.reset := by
  induction seq generalizing t g with
  | nil => rfl
  | cons id ids ih =>
    have hstep := reset_readLive id t g
    change (state (EStateM.bind (readLive id) (fun _ => readAll ids) (t, g))).1.reset = t.reset
    unfold EStateM.bind
    cases hread : readLive id (t, g) with
    | error e s =>
      rw [hread] at hstep
      exact hstep
    | ok u s =>
      rw [hread] at hstep
      exact (ih s.1 s.2).trans hstep

end Transducer

namespace AppendRule

variable {r : AppendRule} {l : Lexicon} {g : Graph} {t : Transducer} {seq : List MachineId}
  {modifier head : MachineId}

/-! ## Pairs in the order of the rule -/

/-- A modifier and a head in the order of the rule. -/
def pair (r : AppendRule) (modifier head : MachineId) : List MachineId :=
  match r.direction with
  | .modifierFirst => [modifier, head]
  | .headFirst => [head, modifier]

theorem pair_roles (r : AppendRule) (first second : MachineId) :
    r.pair (r.roles first second).1 (r.roles first second).2 = [first, second] := by
  unfold pair roles
  cases r.direction <;> rfl

theorem exists_pair (r : AppendRule) (modifier head : MachineId) :
    ∃ first second, r.pair modifier head = [first, second] ∧ r.roles first second = (modifier, head) := by
  unfold pair roles
  cases r.direction
  · exact ⟨modifier, head, rfl, rfl⟩
  · exact ⟨head, modifier, rfl, rfl⟩

theorem check_pair_iff :
    r.check g (r.pair modifier head) = true ↔
      r.modifier.accepts g modifier = true ∧ r.head.accepts g head = true := by
  unfold pair
  cases hdirection : r.direction with
  | modifierFirst => simp [check_pair, matchers, hdirection]
  | headFirst => simp [check_pair, matchers, hdirection, and_comm]

theorem lastCheck_pair_iff :
    r.lastCheck g (r.pair modifier head) = true ↔ modifier ≠ head ∧ ¬ g.Holds head r.partition modifier := by
  have hholds : (!((g.find? head).any fun m => modifier ∈ m.part r.partition)) = true ↔
      ¬ g.Holds head r.partition modifier := by
    rw [Bool.not_eq_true', Bool.eq_false_iff, Ne, Option.any_eq_true]
    simp only [decide_eq_true_eq, Graph.Holds]
  unfold pair
  cases hdirection : r.direction with
  | modifierFirst => simp only [lastCheck, roles, hdirection, Bool.and_eq_true, decide_eq_true_eq, hholds]
  | headFirst => simp only [lastCheck, roles, hdirection, Bool.and_eq_true, decide_eq_true_eq, hholds, ne_comm]

theorem eq_add_length_of_leads {source target : Nat} (h : Acceptor.Leads r.transducer.core.edges g seq source target) :
    target = source + seq.length := by
  induction seq generalizing source with
  | nil => exact h.symm
  | cons id ids ih =>
    obtain ⟨e, he, rfl, -, hrest⟩ := h
    have hnext : e.target = e.source + 1 := by
      rw [transducer_eq] at he
      rcases List.mem_pair.1 he with rfl | rfl <;> rfl
    rw [ih hrest, hnext, List.length_cons]
    omega

/-- The initial state is 0 and the final one is 2, so only pairs are accepted. -/
theorem exists_pair_of_check (h : r.check g seq = true) : ∃ first second, seq = [first, second] := by
  obtain ⟨s, hs, t, ht, hleads⟩ := Acceptor.scan_iff.1 h
  have hlength := eq_add_length_of_leads (r := r) hleads
  rw [transducer_eq] at hs ht
  obtain rfl := List.mem_singleton.1 hs
  obtain rfl := List.mem_singleton.1 ht
  exact List.length_eq_two.1 (by omega)

theorem check_iff :
    r.check g seq = true ↔ ∃ modifier head, seq = r.pair modifier head ∧
      r.modifier.accepts g modifier = true ∧ r.head.accepts g head = true := by
  constructor
  · intro h
    obtain ⟨first, second, rfl⟩ := exists_pair_of_check h
    rw [← r.pair_roles] at h
    exact ⟨_, _, (r.pair_roles first second).symm, check_pair_iff.1 h⟩
  · rintro ⟨modifier, head, rfl, haccepts⟩
    exact check_pair_iff.2 haccepts

/-! ## Acting -/

theorem act_of_refused (h : r.check l.graph seq = false ∨ r.lastCheck l.graph seq = false) :
    r.act seq l = .ok none l := by
  by_cases hpair : ∃ first second, seq = [first, second]
  · obtain ⟨first, second, rfl⟩ := hpair
    rw [act_pair, if_neg]
    rw [Bool.and_eq_true]
    rintro ⟨hlast, hcheck⟩
    rcases h with h | h
    · rw [h] at hcheck
      cases hcheck
    · rw [h] at hlast
      cases hlast
  · exact act_of_not_lastCheck (lastCheck_of_ne_pair fun first second hseq => hpair ⟨first, second, hseq⟩)

/-! ## The transducer from call to call -/

/-- The check, with the transducer that the calls before have left. -/
def checkFrom (g : Graph) (seq : List MachineId) : EStateM Error Transducer Bool := fun t =>
  Transducer.scanDry g seq t.reset

/-- The act, with the transducer that the calls before have left. -/
def actFrom (r : AppendRule) (seq : List MachineId) :
    EStateM Error (Transducer × Lexicon) (Option (List MachineId)) := fun (t, l) =>
  if !r.lastCheck l.graph seq then .ok none (t, l)
  else match Transducer.readAll seq (t.reset, l.graph) with
    | .error e (t, graph) => .error e (t, { l with graph })
    | .ok () (t, graph) =>
      match t.core.inFinal, seq with
      | .error e, _ => .error e (t, { l with graph })
      | .ok true, [first, second] => .ok (some [(r.roles first second).2]) (t, { l with graph })
      | .ok _, _ => .ok none (t, { l with graph })

/-- A use of the rule. -/
inductive Call where
  | check (g : Graph) (seq : List MachineId)
  | act (l : Lexicon) (seq : List MachineId)

/-- The transducer after a call, whether or not the call succeeds. -/
def afterCall (r : AppendRule) (t : Transducer) : Call → Transducer
  | .check g seq => state (checkFrom g seq t)
  | .act l seq => (state (r.actFrom seq (t, l))).1

def afterCalls (r : AppendRule) (calls : List Call) : Transducer :=
  calls.foldl r.afterCall r.transducer

theorem fault?_of_reset (h : t.reset = r.transducer.reset) : t.core.fault? = none := by
  change t.reset.core.fault? = none
  rw [h, transducer_eq]
  rfl

theorem checkFrom_eq (h : t.reset = r.transducer.reset) (g : Graph) (seq : List MachineId) :
    ∃ t', checkFrom g seq t = .ok (r.check g seq) t' ∧ t'.reset = r.transducer.reset := by
  rw [checkFrom, h]
  exact Transducer.scanDry_eq (t := r.transducer.reset) (fault?_of_reset rfl) g seq

theorem actFrom_eq (h : t.reset = r.transducer.reset) (seq : List MachineId) (l : Lexicon) :
    ∃ t', r.actFrom seq (t, l) = Rule.onPart (Prod.mk t') (r.act seq) l ∧ t'.reset = r.transducer.reset := by
  cases hlast : r.lastCheck l.graph seq with
  | false =>
    refine ⟨t, ?_, h⟩
    rw [actFrom, Rule.onPart, act_of_not_lastCheck hlast, hlast]
    rfl
  | true =>
    have hkept := Transducer.reset_readAll seq r.transducer.reset l.graph
    unfold actFrom Rule.onPart act
    simp only [hlast, h, Bool.not_true, Bool.false_eq_true, if_false]
    cases hread : Transducer.readAll seq (r.transducer.reset, l.graph) with
    | error e s =>
      rw [hread] at hkept
      exact ⟨s.1, rfl, hkept⟩
    | ok u s =>
      rw [hread] at hkept
      refine ⟨s.1, ?_, hkept⟩
      have hfinal : s.1.core.inFinal = .ok s.1.core.atFinal := by
        rw [Acceptor.inFinal_eq, fault?_of_reset (t := s.1) (r := r) hkept]
      simp only [hfinal]
      cases s.1.core.atFinal with
      | false => rfl
      | true => rcases seq with _ | ⟨first, _ | ⟨second, _ | ⟨third, rest⟩⟩⟩ <;> rfl

theorem reset_afterCall (h : t.reset = r.transducer.reset) (c : Call) :
    (r.afterCall t c).reset = r.transducer.reset := by
  cases c with
  | check g seq =>
    obtain ⟨t', hcheck, ht'⟩ := checkFrom_eq h g seq
    rw [afterCall, hcheck]
    exact ht'
  | act l seq =>
    obtain ⟨t', hact, ht'⟩ := actFrom_eq h seq l
    rw [afterCall, hact, Rule.state_onPart]
    exact ht'

theorem reset_afterCalls (r : AppendRule) (calls : List Call) :
    (r.afterCalls calls).reset = r.transducer.reset :=
  List.foldlRecOn (motive := fun t => t.reset = r.transducer.reset) calls r.afterCall rfl
    fun _ h c _ => reset_afterCall h c

end AppendRule

end MeaningGraph
