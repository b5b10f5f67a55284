/-
# Histories: the lexica that can be reached

A `Call` is an operation on the lexicon or its graph with its arguments, whatever these are: handles may be
stale, or never have been given out, and a call may fail.  A history is a list of calls; `replay` makes
them one after the other and goes on after a failure with what the failed call left behind.

Every history that starts from the empty lexicon leads to one in order, so in particular to one whose
links are consistent.
-/
import MeaningGraph.Proofs.Lexicon.Sound

namespace MeaningGraph

/-- An operation with its arguments. -/
inductive Call where
  | create (name : String) (control : Option Control)
  | append (parent child : MachineId) (p : Nat)
  | remove (parent child : MachineId) (p : Nat)
  | removeEverywhere (parent child : MachineId)
  | setControl (id : MachineId) (control : Option Control)
  | deepCopy (root : MachineId)
  | retain (roots : List MachineId)
  | addStatic (ids : List MachineId)
  | addActive (ids : List MachineId)
  | expand (id : MachineId)
  | activate
  | mergeActive (ids : List MachineId)
  | unify (keep merge : MachineId)
  | clearActive

namespace Lexicon

open Outcome

/-- The lexicon after a call, whether or not the call succeeds. -/
def call (l : Lexicon) : Call → Lexicon
  | .create name control => state (create name control l)
  | .append parent child p => state (changeGraph (·.append parent child p) l)
  | .remove parent child p => state (changeGraph (·.remove parent child p) l)
  | .removeEverywhere parent child => state (changeGraph (·.removeEverywhere parent child) l)
  | .setControl id control => state (changeGraph (·.setControl id control) l)
  | .deepCopy root => state (grow (·.deepCopy root) l)
  | .retain roots => { l with graph := (l.graph.retain roots).2 }
  | .addStatic ids => state (addStatic ids l)
  | .addActive ids => state (addActive ids l)
  | .expand id => state (expand id l)
  | .activate => state (activate l)
  | .mergeActive ids => state (mergeActive ids l)
  | .unify keep merge => state (unify keep merge l)
  | .clearActive => l.clearActive

def replay (l : Lexicon) (history : List Call) : Lexicon :=
  history.foldl call l

theorem replay_append (l : Lexicon) (h₁ h₂ : List Call) :
    l.replay (h₁ ++ h₂) = (l.replay h₁).replay h₂ :=
  List.foldl_append

/-- The lexicon can be reached from the empty one. -/
def Reachable (l : Lexicon) : Prop :=
  ∃ history, l = empty.replay history

/-! ## One call -/

theorem Sound.evolves_call {l : Lexicon} (h : l.Sound) (c : Call) : Evolves l (l.call c) := by
  cases c with
  | create name control => exact (KeepsSound.create name control l h).state
  | append parent child p => exact (KeepsSound.append parent child p l h).state
  | remove parent child p =>
    exact (KeepsSound.changeGraph (fun _ _ hg hok => hg.evolves_remove hok) l h).state
  | removeEverywhere parent child =>
    exact (KeepsSound.changeGraph (fun _ _ hg hok => hg.evolves_removeEverywhere hok) l h).state
  | setControl id control =>
    exact (KeepsSound.changeGraph (fun _ _ hg hok => hg.evolves_setControl hok) l h).state
  | deepCopy root => exact (KeepsSound.deepCopy root l h).state
  | retain roots => exact h.evolves_graph (h.graph.evolves_retain roots)
  | addStatic ids => exact (KeepsSound.addStatic ids l h).state
  | addActive ids => exact (KeepsSound.addActive ids l h).state
  | expand id => exact (KeepsSound.expand id l h).state
  | activate => exact (KeepsSound.activate l h).state
  | mergeActive ids => exact (KeepsSound.mergeActive ids l h).state
  | unify keep merge => exact (KeepsSound.unify keep merge l h).state
  | clearActive => exact h.evolves_clearActive

/-! ## All calls -/

theorem Sound.evolves_replay {l : Lexicon} (h : l.Sound) (history : List Call) :
    Evolves l (l.replay history) := by
  induction history generalizing l with
  | nil => exact h.evolves_refl
  | cons c history ih =>
    have hcall := h.evolves_call c
    exact hcall.trans (ih hcall.sound)

theorem Reachable.sound {l : Lexicon} (h : l.Reachable) : l.Sound := by
  obtain ⟨history, rfl⟩ := h
  exact (sound_empty.evolves_replay history).sound

theorem Reachable.filed {l : Lexicon} (h : l.Reachable) : l.Filed := by
  obtain ⟨history, rfl⟩ := h
  exact (sound_empty.evolves_replay history).filed filed_empty

/-- After any calls on the empty lexicon, in any order and with any arguments, the links of its graph are
consistent: every live machine has a partition, no partition has a handle twice, every handle in a
partition or among the back-links of a live machine is live, and `c` is in partition `i` of `p` exactly when
`(p, i)` is among the back-links of `c`. -/
theorem links_consistent_of_history (history : List Call) :
    (∀ id m, (empty.replay history).graph.find? id = some m →
      m.parts ≠ [] ∧
      (∀ part ∈ m.parts, part.Nodup) ∧
      (∀ part ∈ m.parts, ∀ c ∈ part, (empty.replay history).graph.contains c = true) ∧
      (∀ link ∈ m.parents, (empty.replay history).graph.contains link.parent = true)) ∧
    (∀ p mp c mc i, (empty.replay history).graph.find? p = some mp →
      (empty.replay history).graph.find? c = some mc → (c ∈ mp.part i ↔ ⟨p, i⟩ ∈ mc.parents)) := by
  have h : (empty.replay history).graph.Sound := (sound_empty.evolves_replay history).sound.graph
  generalize (empty.replay history).graph = g at h
  constructor
  · intro id m hm
    refine ⟨h.links.parts_ne_nil id m hm, ?_, ?_, ?_⟩
    · intro part hpart
      obtain ⟨i, hi⟩ := List.mem_iff_getElem?.1 hpart
      have hnodup := h.links.nodup_part id m hm i
      rwa [Machine.part, List.getD_eq_getElem?_getD, hi] at hnodup
    · intro part hpart c hc
      obtain ⟨i, hi⟩ := List.mem_iff_getElem?.1 hpart
      exact h.contains_child ⟨m, hm, Machine.mem_part_iff.2 ⟨part, hi, hc⟩⟩
    · intro link hlink
      exact h.contains_parent ⟨m, hm, hlink⟩
  · intro p mp c mc i hp hc
    rw [← Graph.holds_iff_of_find? hp, h.links.holds_iff, Graph.heldBy_iff_of_find? hc]

end Lexicon

end MeaningGraph
