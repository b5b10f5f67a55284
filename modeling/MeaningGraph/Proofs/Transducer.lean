/-
# The dry run predicts the live run

A live run changes the graph between its steps, and the matchers of a later step read the graph as the earlier
ones left it.  All the same, a dry run over the graph as it was before moves alike:

    append          links, which matchers do not read
    set control     the control of the machine that is read now, which no later step reads again

So what a step shows of other machines is what there was before (`ReadsAlike`), and where no machine is read
twice every step finds its machine unread.  This goes for each matcher, as a matcher reads no more than the name
and the control of its machine (`Matcher.accepts_congr`).
-/
import MeaningGraph.Transducer
import MeaningGraph.Proofs.Acceptor
import MeaningGraph.Proofs.Outcome
import MeaningGraph.Proofs.Graph.Names

namespace MeaningGraph

variable {g g' g'' : Graph} {id other current : MachineId} {ids register : List MachineId}

/-! ## What is left alone -/

/-- A matcher sees the same of the machine in both graphs. -/
structure Graph.ReadsAlike (id : MachineId) (g g' : Graph) : Prop where
  name? : g'.name? id = g.name? id
  control? : g'.control? id = g.control? id

namespace Graph.ReadsAlike

theorem refl (id : MachineId) (g : Graph) : ReadsAlike id g g :=
  ⟨rfl, rfl⟩

theorem trans (h : ReadsAlike id g g') (h' : ReadsAlike id g' g'') : ReadsAlike id g g'' where
  name? := h'.name?.trans h.name?
  control? := h'.control?.trans h.control?

theorem of_find? (h : g'.find? id = g.find? id) : ReadsAlike id g g' := by
  constructor
  · rw [Graph.name?, Graph.name?, h]
  · rw [Graph.control?, Graph.control?, h]

theorem of_append {p c : MachineId} {i : Nat} (h : g.append p c i = .ok g') (id : MachineId) :
    ReadsAlike id g g' :=
  ⟨name?_append h id, control?_append h id⟩

theorem opened_eq (h : ReadsAlike id g g') (a : Acceptor) : a.opened g' id = a.opened g id :=
  Acceptor.opened_congr h.name? h.control? a

end Graph.ReadsAlike

open MeaningGraph.Graph (ReadsAlike)

theorem Operator.readsAlike {op : Operator} (h : op.apply register current g = .ok g')
    (hne : other ≠ current) : ReadsAlike other g g' := by
  cases op with
  | appendToEarlier position partition =>
    rw [apply] at h
    split at h
    · exact .of_append h other
    · cases h
  | appendEarlier position partition =>
    rw [apply] at h
    split at h
    · exact .of_append h other
    · cases h
  | setControl control =>
    obtain ⟨-, rfl⟩ := Graph.setControl_cases h
    refine .of_find? ?_
    rw [Graph.find?_update, if_neg hne]

namespace Transducer

variable {t t' : Transducer} {ops : List Operator}

theorem readsAlike_perform (h : perform register current ops g = .ok () g') (hne : other ≠ current) :
    ReadsAlike other g g' := by
  induction ops generalizing g with
  | nil =>
    cases h
    exact .refl other _
  | cons op ops ih =>
    rw [perform] at h
    split at h
    · rename_i g₁ happly
      exact (op.readsAlike happly hne).trans (ih h)
    · cases h

/-! ## One step -/

/-- Reads a sequence without touching the graph. -/
def readAllDry (g : Graph) (ids : List MachineId) (t : Transducer) : Except Error Transducer :=
  ids.foldlM (fun t id => t.readDry g id) t

theorem readDry_congr (h : ReadsAlike id g g') (t : Transducer) :
    t.readDry g' id = t.readDry g id := by
  rw [readDry, readDry, Acceptor.read, Acceptor.read, Acceptor.step, Acceptor.step, h.opened_eq]

/-- A live step moves as a dry one, and changes the current machine only as far as matchers can see. -/
theorem readDry_of_readLive (h : readLive id (t, g) = .ok () (t', g')) :
    t.readDry g id = .ok t' ∧ ∀ other, other ≠ id → ReadsAlike other g g' := by
  rw [readLive] at h
  split at h
  · cases h
  · rename_i hrun
    simp only at h
    split at h
    · cases h
    · rename_i hperform
      cases h
      refine ⟨?_, fun other hne => readsAlike_perform hperform hne⟩
      rw [readDry, Acceptor.read_eq, hrun]
      rfl

/-! ## A run -/

/-- The induction is on the sequence.  The machines that are still to be read are read alike in the graph before
the whole run, `g`, and in the one that the run has come to, `g₁`. -/
theorem readAllDry_of_readAll {g₁ : Graph} (hnodup : ids.Nodup) (halike : ∀ id ∈ ids, ReadsAlike id g g₁)
    (h : readAll ids (t, g₁) = .ok () (t', g')) : t.readAllDry g ids = .ok t' := by
  induction ids generalizing t g₁ with
  | nil =>
    cases h
    rfl
  | cons id ids ih =>
    obtain ⟨hnew, hnodup⟩ := List.nodup_cons.1 hnodup
    obtain ⟨hid, hids⟩ := List.forall_mem_cons.1 halike
    obtain ⟨⟨⟩, ⟨t₂, g₂⟩, hstep, hrest⟩ := Outcome.steps_of_ok h
    obtain ⟨hdry, hothers⟩ := readDry_of_readLive hstep
    have hlater : ∀ other ∈ ids, ReadsAlike other g g₂ := by
      intro other hother
      refine (hids other hother).trans (hothers other ?_)
      rintro rfl
      exact hnew hother
    rw [readDry_congr hid] at hdry
    rw [readAllDry, List.foldlM_cons, hdry]
    exact ih hnodup hlater hrest

/-- A transducer that reads machines which are all different, and has changed the graph on its way, stands where
it would stand had it read them in the graph as it was before. -/
theorem readAllDry_predicts (t : Transducer) (g : Graph) (ids before : List MachineId) (hnodup : ids.Nodup)
    (hbefore : before <+: ids) {live : Transducer} (h : readAll before (t.reset, g) = .ok () (live, g')) :
    ∃ dry, t.reset.readAllDry g before = .ok dry ∧ dry.core.active = live.core.active ∧
      dry.register = live.register ∧ dry.core.inFinal = live.core.inFinal := by
  have hdry : t.reset.readAllDry g before = .ok live :=
    readAllDry_of_readAll (hbefore.sublist.nodup hnodup) (fun id _ => .refl id g) h
  exact ⟨live, hdry, rfl, rfl, rfl⟩

/-- Reads `the` and makes it a concept, and then `train`, which must not be one; the two come to hold each
other, and `train` becomes a concept as well. -/
def phrase : Transducer :=
  let (start, t) := empty.addState true false
  let (between, t) := t.addState false false
  let (done, t) := t.addState false true
  let t := t.addEdge start (.exact "the") between [.setControl (some .concept)]
  t.addEdge between (.all [.exact "train", .negate .concept]) done
    [.appendToEarlier 0 0, .appendEarlier 0 1, .setControl (some .concept)]

/-- The two machines that `phrase` reads. -/
def theTrain : Graph :=
  ((Graph.empty.create "the" none).2.create "train" none).2

/-- The graph does change on the way. -/
theorem readAllDry_predicts_phrase :
    [(⟨0, 1⟩ : MachineId), ⟨1, 1⟩].Nodup ∧ ∃ live g',
      readAll [⟨0, 1⟩, ⟨1, 1⟩] (phrase.reset, theTrain) = .ok () (live, g') ∧ g' ≠ theTrain ∧
      ∃ dry, phrase.reset.readAllDry theTrain [⟨0, 1⟩, ⟨1, 1⟩] = .ok dry ∧
        dry.core.active = live.core.active ∧ dry.register = live.register ∧
        dry.core.inFinal = live.core.inFinal := by
  have hnodup : [(⟨0, 1⟩ : MachineId), ⟨1, 1⟩].Nodup := by decide
  have hrun : Outcome.answer? (readAll [⟨0, 1⟩, ⟨1, 1⟩] (phrase.reset, theTrain)) = some () := by
    decide +kernel
  have hchange : (Outcome.state (readAll [⟨0, 1⟩, ⟨1, 1⟩] (phrase.reset, theTrain))).2 ≠ theTrain := by
    decide +kernel
  obtain ⟨⟨live, g'⟩, hread⟩ := Outcome.exists_of_answer? hrun
  rw [hread] at hchange
  exact ⟨hnodup, live, g', hread, hchange,
    readAllDry_predicts phrase theTrain _ _ hnodup (List.prefix_refl _) hread⟩

end Transducer

end MeaningGraph
