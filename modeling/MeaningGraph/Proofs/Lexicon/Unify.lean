/-
# Unifying two machines

`unify keep merge` makes two machines one.  In the graph it leads to the quotient (`Graph.Sound.exists_fold`):
`merge` stays behind without any link, as it keeps its name and its handle.  In the working set it loses its
entry, and the other entries stay where they are, with their flags.

Nothing can fail half-way, so a call either does all of this or, when one of the two handles is stale, nothing.
-/
import MeaningGraph.Proofs.Graph.Fold
import MeaningGraph.Proofs.Lexicon.Changes

namespace MeaningGraph.Lexicon

open MeaningGraph.Graph (redirect)

variable {l l' : Lexicon} {keep merge id : MachineId} {name : String}

/-! ## Back-links of lexica that can be reached -/

theorem Change.orderedParents (h : Change l l') (hl : l.Sound) (hordered : l.graph.OrderedParents) :
    l'.graph.OrderedParents := by
  cases h with
  | gain h =>
    cases h with
    | create name control => exact hordered.create hl.graph.slots name control
    | append h => exact hordered.append h
    | setControl h => exact hordered.setControl h
    | deepCopy h => exact hordered.deepCopy hl.graph h
    | define h => exact hordered
    | register h => rwa [graph_register]
    | flag name id => exact hordered
  | remove h => exact hordered.remove h
  | removeEverywhere h => exact hordered.removeEverywhere h
  | drop h => exact hordered

theorem Reachable.orderedParents (h : l.Reachable) : l.graph.OrderedParents :=
  h.invariant (P := fun l => l.graph.OrderedParents) Graph.orderedParents_empty
    (fun _ _ hl _ hordered hchange => hchange.orderedParents hl hordered)
    (fun _ roots hordered => hordered.retain roots) fun _ hordered => hordered.retain _

/-! ## Taking a machine out of the working set -/

theorem entries_drop_of_name? (hfiled : l.Filed) (hname : l.graph.name? id = some name) (other : String) :
    (drop name id l).entries other = (l.entries other).filter (·.machine ≠ id) := by
  rw [entries_drop]
  split
  · rename_i heq
    rw [heq]
  · rename_i hne
    refine (List.filter_eq_self.2 fun e he => decide_eq_true ?_).symm
    rintro rfl
    exact hne ((hfiled other e.machine (mem_instances.2 ⟨e, he, rfl⟩)).2 name hname).symm

theorem find?_filter_ne {es : List ActiveEntry} {other : MachineId} (h : other ≠ id) :
    (es.filter (·.machine ≠ id)).find? (·.machine = other) = es.find? (·.machine = other) := by
  rw [List.find?_filter]
  congr 1
  funext e
  by_cases he : e.machine = other
  · simp [he, h]
  · simp [he]

/-! ## The outcome -/

/-- `l'` is `l` with `merge` folded into `keep`. -/
structure Folded (keep merge : MachineId) (l l' : Lexicon) : Prop where
  /-- The links are those of the quotient in which the two are one. -/
  holds : ∀ p i c, l'.graph.Holds p i c ↔
    ∃ p' c', l.graph.Holds p' i c' ∧ redirect keep merge p' = p ∧ redirect keep merge c' = c
  /-- Back-links agree with links, and no partition has a machine twice. -/
  links : l'.graph.LinksConsistent
  /-- The same machines are live, with the names and the controls they had. -/
  relinked : Graph.Relinked l.graph l'.graph
  bare : ∀ m, l'.graph.find? merge = some m → m.links = [] ∧ m.parents = []
  statics : l'.statics = l.statics
  inactive : l'.isActive merge = false
  order : l'.order = l.order.filter (· ≠ merge)
  entries : ∀ name, l'.entries name = (l.entries name).filter (·.machine ≠ merge)
  /-- Activity and flags of all others are as before. -/
  entry? : ∀ id, id ≠ merge → l'.entry? id = l.entry? id

theorem Folded.bare_of_holds {g : Graph} (hne : keep ≠ merge) (hg : g.Sound)
    (hholds : ∀ p i c, g.Holds p i c →
      ∃ p' c', redirect keep merge p' = p ∧ redirect keep merge c' = c) {m : Machine}
    (hm : g.find? merge = some m) : m.links = [] ∧ m.parents = [] := by
  constructor
  · refine List.eq_nil_iff_forall_not_mem.2 fun c hc => ?_
    obtain ⟨i, hi⟩ := Machine.mem_links_iff.1 hc
    obtain ⟨p', c', hp, -⟩ := hholds merge i c ⟨m, hm, hi⟩
    exact Graph.redirect_ne hne p' hp
  · refine List.eq_nil_iff_forall_not_mem.2 fun link hlink => ?_
    have hold : g.Holds link.parent link.partition merge := (hg.links.holds_iff _ _ _).2 ⟨m, hm, hlink⟩
    obtain ⟨p', c', -, hc⟩ := hholds _ _ _ hold
    exact Graph.redirect_ne hne c' hc

/-- The graph is folded, and then the machine is taken out of the working set. -/
theorem folded_drop {g : Graph} (hfiled : l.Filed) (hname : l.graph.name? merge = some name)
    (hne : keep ≠ merge) (hg : g.Sound) (hrelinked : Graph.Relinked l.graph g)
    (hholds : ∀ p i c, g.Holds p i c ↔
      ∃ p' c', l.graph.Holds p' i c' ∧ redirect keep merge p' = p ∧ redirect keep merge c' = c) :
    Folded keep merge l (drop name merge { l with graph := g }) := by
  have hentries : ∀ other, (drop name merge { l with graph := g }).entries other =
      (l.entries other).filter (·.machine ≠ merge) := fun other =>
    (entries_congr rfl other).trans (entries_drop_of_name? hfiled hname other)
  have hends : ∀ p i c, g.Holds p i c → ∃ p' c', redirect keep merge p' = p ∧ redirect keep merge c' = c := by
    intro p i c hold
    obtain ⟨p', c', -, hp, hc⟩ := (hholds p i c).1 hold
    exact ⟨p', c', hp, hc⟩
  refine ⟨hholds, hg.links, hrelinked, fun m hm => Folded.bare_of_holds hne hg hends hm, rfl, ?_, rfl, hentries,
    ?_⟩
  · refine Bool.eq_false_iff.2 fun hactive => ?_
    obtain ⟨other, -, e, he, hid⟩ := isActive_iff.1 hactive
    rw [hentries] at he
    exact of_decide_eq_true (List.mem_filter.1 he).2 hid
  · intro id hid
    have hfind : ∀ other, ((drop name merge { l with graph := g }).entries other).find? (·.machine = id) =
        (l.entries other).find? (·.machine = id) := by
      intro other
      rw [hentries, find?_filter_ne hid]
    have hsame : (drop name merge { l with graph := g }).graph.name? id = l.graph.name? id :=
      hrelinked.name? id
    simp only [Lexicon.entry?, hsame, hfind]

/-- Unifying is the quotient of the graph, for all handles and in every lexicon that can be reached: a machine
with itself it leaves alone; two live machines it folds into one; and where one of two different handles is
stale it fails and changes nothing. -/
theorem unify_quotient (hl : l.Reachable) (keep merge : MachineId) :
    (keep = merge → unify keep merge l = .ok () l) ∧
    (keep ≠ merge → l.graph.contains keep = true → l.graph.contains merge = true →
      ∃ l', unify keep merge l = .ok () l' ∧ Folded keep merge l l') ∧
    (keep ≠ merge → l.graph.contains keep = false → unify keep merge l = .error (.stale keep) l) ∧
    (keep ≠ merge → l.graph.contains keep = true → l.graph.contains merge = false →
      unify keep merge l = .error (.stale merge) l) := by
  rw [unify_eq]
  refine ⟨fun heq => ?_, fun hne hkeep hmerge => ?_, fun hne hkeep => ?_, fun hne hkeep hmerge => ?_⟩
  · rw [if_pos heq]
    rfl
  · obtain ⟨m, hm⟩ := Graph.contains_iff.1 hmerge
    have hname := Graph.name?_of_find? hm
    obtain ⟨g, hfold, hg, hrelinked, hholds⟩ :=
      hl.sound.graph.exists_fold hl.orderedParents hne hkeep hmerge
    obtain ⟨m', hm'⟩ := Graph.contains_iff.1 ((hrelinked.contains merge).trans hmerge)
    have hsame : m'.name = m.name := by
      have hname' := Graph.name?_of_find? hm'
      rw [hrelinked.name?, hname] at hname'
      exact (Option.some.inj hname').symm
    refine ⟨drop m.name merge { l with graph := g }, ?_, folded_drop hl.filed hname hne hg hrelinked hholds⟩
    rw [if_neg hne, Outcome.bind_eq_of_ok (changeGraph_of_ok hfold)]
    rw [ask_bind (Graph.name_of_find? hm'), hsame]
    rfl
  · rw [if_neg hne]
    exact changeGraph_bind_error (Graph.fold_of_stale_keep hkeep)
  · rw [if_neg hne]
    exact changeGraph_bind_error (Graph.fold_of_stale_merge hkeep hmerge)

/-- Three machines with links between them: the second holds itself, it and the first hold each other, and both
hold the third. -/
def knot : Lexicon :=
  Lexicon.empty.replay [.create "a" none, .create "b" none, .create "c" none, .append ⟨0, 1⟩ ⟨1, 1⟩ 1,
    .append ⟨1, 1⟩ ⟨0, 1⟩ 1, .append ⟨1, 1⟩ ⟨1, 1⟩ 0, .append ⟨1, 1⟩ ⟨2, 1⟩ 2, .append ⟨0, 1⟩ ⟨2, 1⟩ 2,
    .append ⟨2, 1⟩ ⟨1, 1⟩ 0, .addActive [⟨0, 1⟩, ⟨1, 1⟩, ⟨2, 1⟩]]

theorem unify_quotient_knot :
    knot.Reachable ∧ (⟨0, 1⟩ : MachineId) ≠ ⟨1, 1⟩ ∧ knot.graph.contains ⟨0, 1⟩ = true ∧
    knot.graph.contains ⟨1, 1⟩ = true ∧ knot.graph.contains ⟨7, 1⟩ = false ∧
    (∃ l', unify ⟨0, 1⟩ ⟨1, 1⟩ knot = .ok () l' ∧ Folded ⟨0, 1⟩ ⟨1, 1⟩ knot l') ∧
    unify ⟨7, 1⟩ ⟨1, 1⟩ knot = .error (.stale ⟨7, 1⟩) knot ∧
    unify ⟨0, 1⟩ ⟨7, 1⟩ knot = .error (.stale ⟨7, 1⟩) knot := by
  have hknot : knot.Reachable := ⟨_, rfl⟩
  have ha : knot.graph.contains ⟨0, 1⟩ = true := by decide
  have hb : knot.graph.contains ⟨1, 1⟩ = true := by decide
  have hstale : knot.graph.contains ⟨7, 1⟩ = false := by decide
  refine ⟨hknot, by decide, ha, hb, hstale, ?_, ?_, ?_⟩
  · exact (unify_quotient hknot ⟨0, 1⟩ ⟨1, 1⟩).2.1 (by decide) ha hb
  · exact (unify_quotient hknot ⟨7, 1⟩ ⟨1, 1⟩).2.2.1 (by decide) hstale
  · exact (unify_quotient hknot ⟨0, 1⟩ ⟨7, 1⟩).2.2.2 (by decide) ha hstale

end MeaningGraph.Lexicon
