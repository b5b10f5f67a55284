/-
# Which operations fail, of what, and what is left

    operation               fails
    append p c i            on a stale handle
    remove p c i            on a stale handle, and on live handles if c is not in partition i of p
    removeEverywhere p c    on a stale handle
    setControl id           on a stale handle
    deepCopy root           on a stale handle

Where there are two handles and both are stale, it is the child's that is reported.  These are all the failures, and
none of them leaves anything behind, although the operations look a handle up again after they changed the graph.
`FailsOnly g op whole cause` says so of one operation: run in place on `g` it ends, it fails of the errors that are a
`cause` and leaves `g` then, and it comes to what the operation answers that makes no steps.
-/
import MeaningGraph.Proofs.Graph.CopyInPlace
import MeaningGraph.Proofs.Lexicon.Unify

namespace MeaningGraph

namespace Graph

variable {g : Graph} {id root p c : MachineId} {i : Nat} {e : Error} {α : Type}

/-! ## Causes -/

/-- The error is that the handle is stale. -/
def StaleHandle (g : Graph) (id : MachineId) (e : Error) : Prop :=
  g.contains id = false ∧ e = .stale id

/-- The error is that the child's handle is stale, or else the parent's. -/
def StaleEnd (g : Graph) (p c : MachineId) (e : Error) : Prop :=
  g.StaleHandle c e ∨ g.contains c = true ∧ g.StaleHandle p e

/-- The error names two live machines, the second of which is not in the partition of the first. -/
def NotThere (g : Graph) (p c : MachineId) (i : Nat) (e : Error) : Prop :=
  ∃ m mc, g.find? p = some m ∧ g.find? c = some mc ∧ c ∉ m.part i ∧ e = .notFound m.name mc.name i

theorem error_stale_eq_iff : (.error (.stale id) : Except Error α) = .error e ↔ e = .stale id := by
  rw [Except.error.injEq, eq_comm]

theorem error_iff_of_ends {r : Except Error α} (hchild : g.contains c = false → r = .error (.stale c))
    (hparent : g.contains p = false → r = .error (.stale (if g.contains c then p else c))) :
    r = .error e ↔ g.StaleEnd p c e ∨ g.contains c = true ∧ g.contains p = true ∧ r = .error e := by
  cases hc : g.contains c with
  | false =>
    rw [hchild hc, error_stale_eq_iff]
    simp [StaleEnd, StaleHandle, hc]
  | true =>
    cases hp : g.contains p with
    | false =>
      rw [hparent hp, error_stale_eq_iff]
      simp [StaleEnd, StaleHandle, hc, hp]
    | true => simp [StaleEnd, StaleHandle, hc, hp]

theorem append_eq_error_iff : g.append p c i = .error e ↔ g.StaleEnd p c e := by
  refine (error_iff_of_ends (fun hc => (refuses_of_not_contains hc).append_child p i)
    fun hp => (refuses_of_not_contains hp).append_parent c i).trans (or_iff_left ?_)
  rintro ⟨hc, hp, herror⟩
  obtain ⟨g', hok⟩ := exists_append hp hc i
  rw [hok] at herror
  cases herror

theorem remove_eq_error_iff : g.remove p c i = .error e ↔ g.StaleEnd p c e ∨ g.NotThere p c i e := by
  refine (error_iff_of_ends (fun hc => (refuses_of_not_contains hc).remove_child p i)
    fun hp => (refuses_of_not_contains hp).remove_parent c i).trans (or_congr_right ?_)
  constructor
  · rintro ⟨hc, hp, herror⟩
    obtain ⟨m, hm⟩ := contains_iff.1 hp
    obtain ⟨mc, hmc⟩ := contains_iff.1 hc
    rw [remove_of_find? hm hmc] at herror
    split at herror
    · cases herror
    · rename_i hmem
      exact ⟨m, mc, hm, hmc, hmem, (Except.error.inj herror).symm⟩
  · rintro ⟨m, mc, hm, hmc, hmem, rfl⟩
    refine ⟨contains_of_find? hmc, contains_of_find? hm, ?_⟩
    rw [remove_of_find? hm hmc, if_neg hmem]

theorem removeEverywhere_eq_error_iff : g.removeEverywhere p c = .error e ↔ g.StaleEnd p c e := by
  refine (error_iff_of_ends (fun hc => (refuses_of_not_contains hc).removeEverywhere_child p)
    fun hp => (refuses_of_not_contains hp).removeEverywhere_parent c).trans (or_iff_left ?_)
  rintro ⟨hc, hp, herror⟩
  obtain ⟨mc, hmc⟩ := contains_iff.1 hc
  obtain ⟨m, hm⟩ := contains_iff.1 hp
  rw [removeEverywhere, get_of_find? hmc, get_of_find? hm] at herror
  cases herror

theorem setControl_eq_error_iff {control : Option Control} :
    g.setControl id control = .error e ↔ g.StaleHandle id e := by
  cases hid : g.contains id with
  | false =>
    rw [(refuses_of_not_contains hid).setControl, error_stale_eq_iff]
    simp [StaleHandle, hid]
  | true =>
    obtain ⟨m, hm⟩ := contains_iff.1 hid
    rw [setControl, get_of_find? hm]
    simp [StaleHandle, hid, bind, Except.bind, pure, Except.pure]

theorem Sound.deepCopy_eq_error_iff (h : g.Sound) : g.deepCopy root = .error e ↔ g.StaleHandle root e := by
  cases hroot : g.contains root with
  | false =>
    rw [(refuses_of_not_contains hroot).deepCopy, error_stale_eq_iff]
    simp [StaleHandle, hroot]
  | true =>
    obtain ⟨copy, g', hok, -⟩ := h.copied hroot
    simp [StaleHandle, hroot, hok]

/-! ## All or nothing -/

/-- The operation in place ends.  It answers what `whole` answers and leaves the same graph; it fails of a `cause`
only, as `whole` does, and then leaves the graph that it was given. -/
structure FailsOnly (g : Graph) (op : GraphM α) (whole : Except Error (α × Graph)) (cause : Error → Prop) :
    Prop where
  ends : op g ≠ none
  answers_iff : ∀ a g', op g = some (.ok a, g') ↔ whole = .ok (a, g')
  fails_iff : ∀ e, (∃ g', op g = some (.error e, g')) ↔ cause e
  unchanged : ∀ e g', op g = some (.error e, g') → g' = g
  whole_fails_iff : ∀ e, whole = .error e ↔ cause e

theorem FailsOnly.of_settled {op : GraphM α} {whole : Except Error (α × Graph)} {cause : Error → Prop}
    (h : op g = InPlace.settled g whole) (hcause : ∀ e, whole = .error e ↔ cause e) :
    g.FailsOnly op whole cause := by
  cases whole with
  | ok answer =>
    obtain ⟨a, g'⟩ := answer
    exact
      { ends := by simp [h, InPlace.settled]
        answers_iff := by simp [h, InPlace.settled]
        fails_iff := by simpa [h, InPlace.settled] using hcause
        unchanged := by simp [h, InPlace.settled]
        whole_fails_iff := hcause }
  | error e =>
    exact
      { ends := by simp [h, InPlace.settled]
        answers_iff := by simp [h, InPlace.settled]
        fails_iff := by simpa [h, InPlace.settled] using hcause
        unchanged := by simp [h, InPlace.settled, eq_comm]
        whole_fails_iff := hcause }

theorem FailsOnly.answers {op : GraphM α} {whole : Except Error (α × Graph)} {cause : Error → Prop}
    (h : g.FailsOnly op whole cause) (hnone : ∀ e, ¬ cause e) :
    ∃ a g', op g = some (.ok a, g') ∧ whole = .ok (a, g') := by
  cases hwhole : whole with
  | error e => exact absurd ((h.whole_fails_iff e).1 hwhole) (hnone e)
  | ok answer =>
    obtain ⟨a, g'⟩ := answer
    exact ⟨a, g', (h.answers_iff a g').2 hwhole, rfl⟩

theorem map_eq_error_iff {β : Type} {r : Except Error α} {f : α → β} : r.map f = .error e ↔ r = .error e := by
  cases r <;> simp [Except.map]

end Graph

namespace Lexicon

open MeaningGraph.Graph

/-- Operations on any graph that can be reached fail for these reasons only and change nothing when they fail, with
all their steps made in place and the recursion of copying allowed to go deeper than there are machines.  On live
handles a child can always be removed from everywhere, and whatever is below a live machine, it can be copied. -/
theorem failing_changes_nothing {l : Lexicon} (hl : l.Reachable) :
    (∀ p c i, l.graph.FailsOnly (InPlace.append p c i) ((l.graph.append p c i).map ((), ·))
      (l.graph.StaleEnd p c)) ∧
    (∀ p c i, l.graph.FailsOnly (InPlace.remove p c i) ((l.graph.remove p c i).map ((), ·))
      fun e => l.graph.StaleEnd p c e ∨ l.graph.NotThere p c i e) ∧
    (∀ p c, l.graph.FailsOnly (InPlace.removeEverywhere p c) ((l.graph.removeEverywhere p c).map ((), ·))
      (l.graph.StaleEnd p c)) ∧
    (∀ id control, l.graph.FailsOnly (InPlace.setControl id control)
      ((l.graph.setControl id control).map fun g' => (l.graph.control? id, g')) (l.graph.StaleHandle id)) ∧
    (∀ depth root, l.graph.live < depth →
      l.graph.FailsOnly (InPlace.deepCopy depth root) (l.graph.deepCopy root) (l.graph.StaleHandle root)) ∧
    (∀ p c, l.graph.contains p = true → l.graph.contains c = true →
      ∃ g', InPlace.removeEverywhere p c l.graph = some (.ok (), g') ∧ l.graph.removeEverywhere p c = .ok g') ∧
    (∀ depth root, l.graph.live < depth → l.graph.contains root = true →
      ∃ copy g', InPlace.deepCopy depth root l.graph = some (.ok copy, g') ∧
        l.graph.deepCopy root = .ok (copy, g')) := by
  have hg : l.graph.Sound := hl.sound.graph
  have hordered : l.graph.OrderedParents := hl.orderedParents
  have hremove : ∀ p c, l.graph.FailsOnly (InPlace.removeEverywhere p c)
      ((l.graph.removeEverywhere p c).map ((), ·)) (l.graph.StaleEnd p c) := fun p c =>
    .of_settled (InPlace.removeEverywhere_settled hg p c)
      fun _ => map_eq_error_iff.trans removeEverywhere_eq_error_iff
  have hcopy : ∀ depth root, l.graph.live < depth →
      l.graph.FailsOnly (InPlace.deepCopy depth root) (l.graph.deepCopy root) (l.graph.StaleHandle root) :=
    fun depth root hdepth =>
      .of_settled (InPlace.deepCopy_settled hg hordered hdepth root) fun _ => hg.deepCopy_eq_error_iff
  refine ⟨fun p c i => ?_, fun p c i => ?_, hremove, fun id control => ?_, hcopy, ?_, ?_⟩
  · exact .of_settled (InPlace.append_settled ..) fun _ => map_eq_error_iff.trans append_eq_error_iff
  · exact .of_settled (InPlace.remove_settled ..) fun _ => map_eq_error_iff.trans remove_eq_error_iff
  · exact .of_settled (InPlace.setControl_settled ..) fun _ => map_eq_error_iff.trans setControl_eq_error_iff
  · intro p c hp hc
    obtain ⟨_, g', hrun, hwhole⟩ := (hremove p c).answers fun e hcause => by
      simp [StaleEnd, StaleHandle, hp, hc] at hcause
    cases hok : l.graph.removeEverywhere p c with
    | error e =>
      rw [hok] at hwhole
      cases hwhole
    | ok g₁ =>
      rw [hok] at hwhole
      cases hwhole
      exact ⟨_, hrun, rfl⟩
  · intro depth root hdepth hroot
    exact (hcopy depth root hdepth).answers fun e hcause => by
      simp [StaleHandle, hroot] at hcause

/-- A dock that holds a ferry and itself; there is no third machine. -/
def ferryDock : Lexicon :=
  empty.replay [.create "dock" none, .create "ferry" none, .append ⟨0, 1⟩ ⟨1, 1⟩ 0, .append ⟨0, 1⟩ ⟨0, 1⟩ 2]

/-- A stale handle can hold nothing, and a stale child is reported before it; the ferry is not in partition 1 of the
dock, and the dock can be copied. -/
theorem failing_changes_nothing_ferryDock :
    ferryDock.Reachable ∧ ferryDock.graph.live < 3 ∧
    InPlace.append ⟨2, 1⟩ ⟨1, 1⟩ 0 ferryDock.graph = some (.error (.stale ⟨2, 1⟩), ferryDock.graph) ∧
    InPlace.append ⟨2, 1⟩ ⟨9, 1⟩ 0 ferryDock.graph = some (.error (.stale ⟨9, 1⟩), ferryDock.graph) ∧
    InPlace.remove ⟨0, 1⟩ ⟨1, 1⟩ 1 ferryDock.graph =
      some (.error (.notFound "dock" "ferry" 1), ferryDock.graph) ∧
    ∃ copy g', InPlace.deepCopy 3 ⟨0, 1⟩ ferryDock.graph = some (.ok copy, g') := by
  have hreach : ferryDock.Reachable := ⟨_, rfl⟩
  have hlive : ferryDock.graph.live < 3 := by decide
  obtain ⟨happend, hremove, -, -, -, -, hcopy⟩ := failing_changes_nothing hreach
  refine ⟨hreach, hlive, ?_, ?_, ?_, ?_⟩
  · obtain ⟨g', hrun⟩ := ((happend ⟨2, 1⟩ ⟨1, 1⟩ 0).fails_iff (.stale ⟨2, 1⟩)).2
      (.inr ⟨by decide, by decide, rfl⟩)
    rw [hrun, (happend ⟨2, 1⟩ ⟨1, 1⟩ 0).unchanged _ _ hrun]
  · obtain ⟨g', hrun⟩ := ((happend ⟨2, 1⟩ ⟨9, 1⟩ 0).fails_iff (.stale ⟨9, 1⟩)).2 (.inl ⟨by decide, rfl⟩)
    rw [hrun, (happend ⟨2, 1⟩ ⟨9, 1⟩ 0).unchanged _ _ hrun]
  · have hnot : ferryDock.graph.NotThere ⟨0, 1⟩ ⟨1, 1⟩ 1 (.notFound "dock" "ferry" 1) :=
      ⟨_, _, rfl, rfl, by decide, rfl⟩
    obtain ⟨g', hrun⟩ := ((hremove ⟨0, 1⟩ ⟨1, 1⟩ 1).fails_iff _).2 (.inr hnot)
    rw [hrun, (hremove ⟨0, 1⟩ ⟨1, 1⟩ 1).unchanged _ _ hrun]
  · obtain ⟨copy, g', hrun, -⟩ := hcopy 3 ⟨0, 1⟩ hlive (by decide)
    exact ⟨copy, g', hrun⟩

end Lexicon

end MeaningGraph
