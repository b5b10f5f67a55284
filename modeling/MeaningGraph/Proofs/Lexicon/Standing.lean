/-
# Definitions that stand

A definition stands when it is live and everything below it is.  Only live machines are made definitions, and
no change frees a machine, so it is clearing alone that can bring one down:

| a definition is | clearing |
| :-- | :-- |
| not in the working set | keeps it, as an anchor |
| in the working set, below an anchor | keeps it |
| in the working set, below none | frees it, and leaves its handle in the static table |

The search for the background never enters the working set, not even where it starts from a definition.  So all
definitions stand after every step of a history exactly when every clearing in it comes upon a lexicon of which
the definitions that are active lie in the background (`standing_iff_covered`).  The last line of the table does
occur (`dangles_recalled`).
-/
import MeaningGraph.Proofs.Graph.Connected
import MeaningGraph.Proofs.Lexicon.Changes
import MeaningGraph.Proofs.Lexicon.Clear

namespace MeaningGraph.Lexicon

variable {l l' : Lexicon} {id : MachineId} {history : List Call}

/-- Every definition is live, and so is everything below it. -/
def Standing (l : Lexicon) : Prop :=
  ∀ id ∈ l.statics.values, ∀ m, l.graph.Below id m → l.graph.contains m = true

/-- The definitions that are in the working set lie in the background. -/
def Covered (l : Lexicon) : Prop :=
  ∀ id ∈ l.statics.values, id ∈ l.order → id ∈ l.background

/-- Definitions stand when they are live, as what is below a live machine is live. -/
theorem Sound.standing_iff (h : l.Sound) :
    l.Standing ↔ ∀ id ∈ l.statics.values, l.graph.contains id = true := by
  constructor
  · intro hs id hid
    exact hs id hid id .refl
  · intro hlive id hid m hm
    exact h.graph.contains_of_below (hlive id hid) hm

theorem standing_empty : empty.Standing :=
  fun _ hid => (List.not_mem_nil hid).elim

theorem Change.standing (h : Change l l') (hl : l.Sound) (hs : l.Standing) : l'.Standing := by
  rw [(h.evolves hl).sound.standing_iff]
  have hold : ∀ id ∈ l.statics.values, l'.graph.contains id = true := fun id hid =>
    h.contains hl (hl.standing_iff.1 hs id hid)
  rcases h.cases_statics with hstatics | ⟨name, other, hname, rfl⟩
  · rwa [hstatics]
  · intro id hid
    rcases Table.mem_values_insert hid with rfl | hid
    · exact Graph.contains_of_name? hname
    · exact hold id hid

theorem mem_background_of_static (hid : id ∈ l.statics.values) (hlive : l.graph.contains id = true)
    (hfresh : id ∉ l.order) : id ∈ l.background := by
  have hanchored : id ∈ l.anchored :=
    Search.mem_preorder_of_pending hid
      (List.mem_filter.2 ⟨Graph.mem_handles_iff.2 hlive, decide_eq_true hfresh⟩)
  exact mem_background_of_mem_anchored hanchored

theorem Sound.mem_background_of_holds {a c : MachineId} {i : Nat} (h : l.Sound) (ha : a ∈ l.background)
    (hold : l.graph.Holds a i c) : c ∈ l.background :=
  h.graph.mem_descendants_of_holds ha hold

theorem background_eq_nil (h : ∀ id ∈ l.statics.values, id ∈ l.order) : l.background = [] := by
  have hanchored : l.anchored = [] := by
    refine List.eq_nil_iff_forall_not_mem.2 fun a ha => ?_
    obtain ⟨root, hroot, hfresh, -⟩ := Search.exists_path_of_mem_preorder ha
    exact of_decide_eq_true (List.mem_filter.1 hfresh).2 (h root hroot)
  rw [background, hanchored]
  exact Search.preorder_nil _ _

/-- Clearing leaves the definitions standing exactly when those in the working set lie in the background. -/
theorem Sound.standing_clearActive_iff (h : l.Sound) (hs : l.Standing) :
    l.clearActive.Standing ↔ l.Covered := by
  rw [h.evolves_clearActive.sound.standing_iff]
  constructor
  · intro hlive id hid _
    exact contains_clearActive.1 (hlive id hid)
  · intro hcovered id hid
    refine contains_clearActive.2 ?_
    by_cases horder : id ∈ l.order
    · exact hcovered id hid horder
    · exact mem_background_of_static hid (h.standing_iff.1 hs id hid) horder

theorem replay_take_succ (history : List Call) {n : Nat} {c : Call} (h : history[n]? = some c) :
    empty.replay (history.take (n + 1)) = (empty.replay (history.take n)).call c := by
  rw [List.take_add_one, h, replay_append]
  rfl

/-- In a history in which the user releases no machines directly, all definitions and all that is below them are
live after every step exactly when each clearing comes upon a lexicon whose active definitions lie in the
background.  No other call ever brings a definition down. -/
theorem standing_iff_covered (hretain : ∀ roots, Call.retain roots ∉ history) :
    (∀ n, (empty.replay (history.take n)).Standing) ↔
      ∀ n, history[n]? = some .clearActive → (empty.replay (history.take n)).Covered := by
  have hsound : ∀ n, (empty.replay (history.take n)).Sound := fun n =>
    (sound_empty.evolves_replay _).sound
  constructor
  · intro hs n hclear
    have hnext := hs (n + 1)
    rw [replay_take_succ history hclear] at hnext
    exact ((hsound n).standing_clearActive_iff (hs n)).1 hnext
  · intro hcovered n
    induction n with
    | zero => exact standing_empty
    | succ n ih =>
      cases hc : history[n]? with
      | none =>
        have hend : history.take (n + 1) = history.take n := by
          rw [List.take_add_one, hc, Option.toList_none, List.append_nil]
        rwa [hend]
      | some c =>
        rw [replay_take_succ history hc]
        by_cases hclear : c = .clearActive
        · subst hclear
          exact ((hsound n).standing_clearActive_iff ih).2 (hcovered n hc)
        · have hr : ∀ roots, c ≠ .retain roots := by
            rintro roots rfl
            exact hretain roots (List.mem_of_getElem? hc)
          exact (changes_call c hr hclear _).keeps (fun _ _ hl _ hs hchange => hchange.standing hl hs) (hsound n)
            ((sound_empty.evolves_replay _).filed filed_empty) ih

/-- The definition of a train is active as well, but a ticket holds it. -/
def ticketed : List Call :=
  [.create "ticket" none, .create "train" none, .append ⟨0, 1⟩ ⟨1, 1⟩ 1, .addStatic [⟨0, 1⟩, ⟨1, 1⟩],
    .addActive [⟨1, 1⟩], .clearActive]

theorem standing_iff_covered_ticketed :
    (∀ roots, Call.retain roots ∉ ticketed) ∧ ∀ n, (empty.replay (ticketed.take n)).Standing := by
  have hretain : ∀ roots, Call.retain roots ∉ ticketed := by
    intro roots h
    simp [ticketed] at h
  refine ⟨hretain, (standing_iff_covered hretain).2 fun n hclear => ?_⟩
  -- the last call is the only clearing
  rcases n with _ | _ | _ | _ | _ | _ | n <;> cases hclear
  have hsound : (empty.replay (ticketed.take 5)).Sound := (sound_empty.evolves_replay _).sound
  have hticket : ⟨0, 1⟩ ∈ (empty.replay (ticketed.take 5)).background :=
    mem_background_of_static (by decide) (by decide) (by decide)
  intro id hid horder
  obtain rfl : id = ⟨1, 1⟩ := List.mem_singleton.1 horder
  exact hsound.mem_background_of_holds hticket (i := 1) ⟨_, rfl, by decide⟩

/-- A definition is made active, and then the working set is cleared. -/
def recalled : List Call :=
  [.create "train" none, .addStatic [⟨0, 1⟩], .addActive [⟨0, 1⟩], .clearActive]

/-- The definition is live before clearing and freed by it, and the static table still has its handle. -/
theorem dangles_recalled :
    (∀ roots, Call.retain roots ∉ recalled) ∧
    (empty.replay (recalled.take 3)).graph.contains ⟨0, 1⟩ = true ∧
    (⟨0, 1⟩ : MachineId) ∈ (empty.replay recalled).statics.values ∧
    (empty.replay recalled).graph.contains ⟨0, 1⟩ = false := by
  have hnone : (empty.replay (recalled.take 3)).background = [] := background_eq_nil (by decide)
  refine ⟨fun roots h => ?_, by decide, by decide, ?_⟩
  · simp [recalled] at h
  · refine Bool.eq_false_iff.2 fun hlive => ?_
    have hmem : ⟨0, 1⟩ ∈ (empty.replay (recalled.take 3)).background := contains_clearActive.1 hlive
    rw [hnone] at hmem
    exact List.not_mem_nil hmem

end MeaningGraph.Lexicon
