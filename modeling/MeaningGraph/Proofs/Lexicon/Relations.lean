/-
# Relations are found from their source

A machine relates what it holds in partition 1 to what it holds in partition 2:

    source ◀──1── relation ──2──▶ target, target, …

`targetsOf` asks the source who holds it, and so looks at a few machines only.  It comes to what a look at all
machines comes to (`scanTargets`), in the same order, as the back-links of a machine stand in the order of the
handles, and a graph in order has a back-link for every link.

| a lookup | goes through | and at a stale handle |
| :-- | :-- | :-- |
| `targetsOf` | the back-links of the source | passes over it |
| `lookUp` | the back-links of the source, one after the other | fails |
| `scanTargets` | all live machines | does not meet one |

In a graph in order no back-link is stale, and the three agree.  A target may be related several times, by one
machine or by several, and is listed once, where it comes up first.
-/
import MeaningGraph.Proofs.Lexicon.Hypernyms
import MeaningGraph.Proofs.Lexicon.Unify

namespace MeaningGraph

namespace MachineId

theorem before_iff {a b : MachineId} :
    a.before b = true ↔ a.index < b.index ∨ a.index = b.index ∧ a.generation < b.generation := by
  simp [before]

instance irrefl_before : Std.Irrefl fun a b : MachineId => a.before b = true where
  irrefl a h := by
    rw [before_iff] at h
    omega

instance antisymm_before : Std.Antisymm fun a b : MachineId => a.before b = true where
  antisymm a b hab hba := by
    rw [before_iff] at hab hba
    omega

end MachineId

namespace Graph

variable {g : Graph} {source target : MachineId} {relation : String} {m : Machine}

/-! ## Looking at all machines -/

/-- The targets of a relation from a machine, found among all live machines. -/
def scanTargets (g : Graph) (source : MachineId) (relation : String) : List MachineId :=
  ((g.handles.filter fun r => g.name? r = some relation ∧ source ∈ g.partOf r 1).flatMap
    (g.partOf · 2)).eraseDups

/-- The machines of the relation that hold the source are those of its back-links, in the same order. -/
theorem Sound.map_parent_filter_parents (h : g.Sound) (hordered : g.OrderedParents)
    (hsource : g.find? source = some m) :
    (m.parents.filter fun link => link.partition = 1 && g.name? link.parent == some relation).map (·.parent) =
      g.handles.filter fun r => g.name? r = some relation ∧ source ∈ g.partOf r 1 := by
  have hlinks : ((m.parents.filter fun link =>
      link.partition = 1 && g.name? link.parent == some relation).map (·.parent)).Pairwise
        fun a b => a.before b = true := by
    refine List.pairwise_map.2 (((hordered source m hsource).filter _).imp_of_mem ?_)
    intro a b ha hb hab
    have hpart : a.partition = 1 ∧ b.partition = 1 := by
      simp only [List.mem_filter, Bool.and_eq_true, decide_eq_true_eq] at ha hb
      exact ⟨ha.2.1, hb.2.1⟩
    rw [Link.before_iff] at hab
    rw [MachineId.before_iff]
    omega
  have hhandles : (g.handles.filter fun r => g.name? r = some relation ∧ source ∈ g.partOf r 1).Pairwise
      fun a b => a.before b = true :=
    (pairwise_index_handles.imp fun hlt => MachineId.before_iff.2 (.inl hlt)).filter _
  refine hlinks.eq_of_mem_iff hhandles fun r => ?_
  simp only [List.mem_map, List.mem_filter, Bool.and_eq_true, decide_eq_true_eq, beq_iff_eq, mem_partOf_iff,
    mem_handles_iff, h.links.holds_iff r 1 source, heldBy_iff_of_find? hsource]
  constructor
  · rintro ⟨⟨r, i⟩, ⟨hlink, rfl, hname⟩, rfl⟩
    exact ⟨contains_of_name? hname, hname, hlink⟩
  · rintro ⟨-, hname, hlink⟩
    exact ⟨⟨r, 1⟩, ⟨hlink, rfl, hname⟩, rfl⟩

theorem Sound.targetsOf_eq_scanTargets (h : g.Sound) (hordered : g.OrderedParents)
    (hlive : g.contains source = true) : g.targetsOf source relation = g.scanTargets source relation := by
  obtain ⟨m, hsource⟩ := contains_iff.1 hlive
  rw [scanTargets, ← h.map_parent_filter_parents hordered hsource, List.flatMap_map, targetsOf, hsource]
  simp only
  rw [Search.foldl_unseen, List.nil_append, List.filter_eq_self.2 (by simp)]
  rfl

/-! ## A lookup that fails on stale handles -/

/-- Adds what the holder at the other end of a back-link relates to the machine, if it is one of the relation. -/
def addTargets (g : Graph) (relation : String) (seen : List MachineId) (link : Link) :
    Except Error (List MachineId) :=
  if link.partition = 1 then do
    let name ← g.name link.parent
    if name = relation then
      let holder ← g.get link.parent
      return (holder.part 2).foldl (fun seen t => if t ∈ seen then seen else seen ++ [t]) seen
    else return seen
  else return seen

/-- Looks up the targets of a relation, back-link by back-link. -/
def lookUp (g : Graph) (source : MachineId) (relation : String) : Except Error (List MachineId) := do
  let m ← g.get source
  m.parents.foldlM (g.addTargets relation) []

theorem addTargets_of_contains {link : Link} (hlive : g.contains link.parent = true) (seen : List MachineId) :
    g.addTargets relation seen link =
      .ok (if link.partition = 1 && g.name? link.parent == some relation then
        (g.partOf link.parent 2).foldl (fun seen t => if t ∈ seen then seen else seen ++ [t]) seen
      else seen) := by
  obtain ⟨holder, hholder⟩ := contains_iff.1 hlive
  have hname : g.name link.parent = .ok holder.name := by
    rw [name, get_of_find? hholder]
    rfl
  rw [addTargets, hname, name?_of_find? hholder, partOf_of_find? hholder]
  by_cases hpart : link.partition = 1
  · rw [if_pos hpart, decide_eq_true hpart, Bool.true_and, get_of_find? hholder]
    by_cases hrelation : holder.name = relation
    · rw [hrelation, if_pos (beq_self_eq_true _)]
      exact if_pos rfl
    · rw [if_neg (by simpa using hrelation)]
      exact if_neg hrelation
  · rw [if_neg hpart, decide_eq_false hpart]
    rfl

theorem foldlM_addTargets {links : List Link} (hlive : ∀ link ∈ links, g.contains link.parent = true)
    (seen : List MachineId) :
    links.foldlM (g.addTargets relation) seen =
      .ok (((links.filter fun link => link.partition = 1 && g.name? link.parent == some relation).flatMap
        fun link => g.partOf link.parent 2).foldl
          (fun seen t => if t ∈ seen then seen else seen ++ [t]) seen) := by
  induction links generalizing seen with
  | nil => rfl
  | cons link links ih =>
    obtain ⟨hlink, hlinks⟩ := List.forall_mem_cons.1 hlive
    rw [List.foldlM_cons, addTargets_of_contains hlink]
    refine (ih hlinks _).trans ?_
    split
    · rename_i hof
      rw [List.filter_cons, if_pos hof, List.flatMap_cons, List.foldl_append]
    · rename_i hnot
      rw [List.filter_cons, if_neg hnot]

/-- No back-link of a graph in order is stale, and so the lookup fails for none. -/
theorem Sound.lookUp_of_contains (h : g.Sound) (hlive : g.contains source = true) :
    g.lookUp source relation = .ok (g.targetsOf source relation) := by
  obtain ⟨m, hsource⟩ := contains_iff.1 hlive
  have hparents : ∀ link ∈ m.parents, g.contains link.parent = true := fun link hlink =>
    h.contains_parent ⟨m, hsource, hlink⟩
  rw [lookUp, get_of_find? hsource, targetsOf, hsource]
  exact foldlM_addTargets hparents []

theorem nodup_targetsOf (g : Graph) (source : MachineId) (relation : String) :
    (g.targetsOf source relation).Nodup := by
  unfold targetsOf
  split
  · exact List.nodup_nil
  · exact Search.nodup_foldl_unseen _ List.nodup_nil

theorem Relates.contains (h : g.Sound) (hrelates : g.Relates relation source target) :
    g.contains source = true ∧ g.contains target = true := by
  obtain ⟨r, -, hsource, htarget⟩ := hrelates
  exact ⟨h.contains_child hsource, h.contains_child htarget⟩

theorem forall₂_names {ids : List MachineId} (hlive : ∀ id ∈ ids, g.contains id = true) :
    List.Forall₂ (fun id name => g.name? id = some name) ids (ids.filterMap g.name?) := by
  induction ids with
  | nil => exact .nil
  | cons id ids ih =>
    obtain ⟨hid, hids⟩ := List.forall_mem_cons.1 hlive
    obtain ⟨m, hm⟩ := contains_iff.1 hid
    have hname := name?_of_find? hm
    rw [List.filterMap_cons_some hname]
    exact .cons hname (ih hids)

end Graph

namespace Lexicon

variable {l : Lexicon} {source : MachineId} {relation : String}

/-! ## The only target -/

theorem relationTargets_of_contains (hlive : l.graph.contains source = true) :
    l.relationTargets source relation = .ok (l.graph.targetsOf source relation) := by
  obtain ⟨m, hsource⟩ := Graph.contains_iff.1 hlive
  rw [relationTargets, Graph.get_of_find? hsource]
  rfl

theorem relationTarget_of_find? {m : Machine} (hsource : l.graph.find? source = some m) :
    l.relationTarget source relation =
      match l.graph.targetsOf source relation with
      | [] => .ok none
      | [target] => .ok (some target)
      | many => .error (.ambiguous m.name relation (many.filterMap l.graph.name?)) := by
  rw [relationTarget, Graph.get_of_find? hsource]
  change (match l.graph.targetsOf source relation with
    | [] => _
    | [target] => _
    | many => _) = _
  split <;> rfl

/-- A relation is looked up from its source alike by way of the back-links, by a lookup that fails on stale
handles, and by a look at all machines.  The lookup fails for a stale source only.  It lists, each once, the
machines that some live machine with the name of the relation holds in partition 2 while it holds the source in
partition 1.  Where one is asked for there is none, or the one, or an error with the names of the source, of the
relation and of all that are listed. -/
theorem relation_found_by_scan (hl : l.Reachable) (source : MachineId) (relation : String) :
    (l.graph.contains source = false →
      l.relationTargets source relation = .error (.stale source) ∧
      l.graph.lookUp source relation = .error (.stale source) ∧
      l.relationTarget source relation = .error (.stale source)) ∧
    ∀ m, l.graph.find? source = some m → ∃ targets,
      l.relationTargets source relation = .ok targets ∧
      l.graph.lookUp source relation = .ok targets ∧
      l.graph.scanTargets source relation = targets ∧
      targets.Nodup ∧
      (∀ t, t ∈ targets ↔ l.graph.Relates relation source t) ∧
      ((∀ t, ¬l.graph.Relates relation source t) ∧ l.relationTarget source relation = .ok none ∨
        (∃ t, (∀ t', l.graph.Relates relation source t' ↔ t' = t) ∧
          l.relationTarget source relation = .ok (some t)) ∨
        ∃ t t' names, t ≠ t' ∧ l.graph.Relates relation source t ∧ l.graph.Relates relation source t' ∧
          List.Forall₂ (fun t name => l.graph.name? t = some name) targets names ∧
          l.relationTarget source relation = .error (.ambiguous m.name relation names)) := by
  have hg : l.graph.Sound := hl.sound.graph
  constructor
  · intro hstale
    have hget := Graph.get_of_not_contains hstale
    refine ⟨?_, ?_, ?_⟩
    · rw [relationTargets, hget]
      rfl
    · rw [Graph.lookUp, hget]
      rfl
    · rw [relationTarget, hget]
      rfl
  · intro m hsource
    have hlive := Graph.contains_of_find? hsource
    have hmem : ∀ t, t ∈ l.graph.targetsOf source relation ↔ l.graph.Relates relation source t := fun t =>
      hg.mem_targetsOf_iff
    refine ⟨l.graph.targetsOf source relation, relationTargets_of_contains hlive,
      hg.lookUp_of_contains hlive, (hg.targetsOf_eq_scanTargets hl.orderedParents hlive).symm,
      Graph.nodup_targetsOf .., hmem, ?_⟩
    have hnodup := Graph.nodup_targetsOf l.graph source relation
    have hone : l.relationTarget source relation = _ := relationTarget_of_find? hsource
    have hnames := Graph.forall₂_names fun t ht => (((hmem t).1 ht).contains hg).2
    generalize l.graph.targetsOf source relation = targets at hmem hnodup hone hnames
    match targets with
    | [] => exact .inl ⟨fun t ht => List.not_mem_nil ((hmem t).2 ht), hone⟩
    | [t] =>
      refine .inr (.inl ⟨t, fun t' => ?_, hone⟩)
      rw [← hmem, List.mem_singleton]
    | t :: t' :: rest =>
      have hne : t ≠ t' := by
        rintro rfl
        exact (List.nodup_cons.1 hnodup).1 List.mem_cons_self
      exact .inr (.inr ⟨t, t', _, hne, (hmem t).1 List.mem_cons_self,
        (hmem t').1 (List.mem_cons_of_mem _ List.mem_cons_self), hnames, hone⟩)

/-- Two relations `IN` lead from the train to the depot; the first relates it to itself and to the relation as
well, the second to the yard.  By `BY` it is related to the yard alone. -/
def twoRelations : Lexicon :=
  empty.replay [.create "train" none, .create "depot" none, .create "IN" none, .create "IN" none,
    .create "yard" none, .create "BY" none, .append ⟨2, 1⟩ ⟨0, 1⟩ 1, .append ⟨2, 1⟩ ⟨1, 1⟩ 2,
    .append ⟨2, 1⟩ ⟨0, 1⟩ 2, .append ⟨2, 1⟩ ⟨2, 1⟩ 2, .append ⟨3, 1⟩ ⟨0, 1⟩ 1, .append ⟨3, 1⟩ ⟨1, 1⟩ 2,
    .append ⟨3, 1⟩ ⟨4, 1⟩ 2, .append ⟨5, 1⟩ ⟨0, 1⟩ 1, .append ⟨5, 1⟩ ⟨4, 1⟩ 2]

/-- The depot is listed once, the train and the relation are listed too, and the error names all four. -/
theorem relation_found_by_scan_depot :
    twoRelations.Reachable ∧
      twoRelations.relationTargets ⟨6, 1⟩ "IN" = .error (.stale ⟨6, 1⟩) ∧
      twoRelations.relationTargets ⟨0, 1⟩ "IN" = .ok [⟨1, 1⟩, ⟨0, 1⟩, ⟨2, 1⟩, ⟨4, 1⟩] ∧
      twoRelations.graph.scanTargets ⟨0, 1⟩ "IN" = [⟨1, 1⟩, ⟨0, 1⟩, ⟨2, 1⟩, ⟨4, 1⟩] ∧
      twoRelations.relationTarget ⟨0, 1⟩ "IN" =
        .error (.ambiguous "train" "IN" ["depot", "train", "IN", "yard"]) ∧
      twoRelations.relationTarget ⟨0, 1⟩ "BY" = .ok (some ⟨4, 1⟩) ∧
      twoRelations.graph.Relates "BY" ⟨0, 1⟩ ⟨4, 1⟩ ∧
      twoRelations.relationTarget ⟨0, 1⟩ "HAS" = .ok none := by
  have hreach : twoRelations.Reachable := ⟨_, rfl⟩
  have htrain : twoRelations.graph.find? ⟨0, 1⟩ =
      some { name := "train", parents := [⟨⟨2, 1⟩, 1⟩, ⟨⟨2, 1⟩, 2⟩, ⟨⟨3, 1⟩, 1⟩, ⟨⟨5, 1⟩, 1⟩] } := by decide
  have hscan : twoRelations.graph.scanTargets ⟨0, 1⟩ "IN" = [⟨1, 1⟩, ⟨0, 1⟩, ⟨2, 1⟩, ⟨4, 1⟩] := by decide
  have hyard : twoRelations.graph.scanTargets ⟨0, 1⟩ "BY" = [⟨4, 1⟩] := by decide
  obtain ⟨hstale, -⟩ := relation_found_by_scan hreach ⟨6, 1⟩ "IN"
  obtain ⟨-, hin⟩ := relation_found_by_scan hreach ⟨0, 1⟩ "IN"
  obtain ⟨-, hby⟩ := relation_found_by_scan hreach ⟨0, 1⟩ "BY"
  obtain ⟨targets, hfound, -, rfl, -⟩ := hin _ htrain
  obtain ⟨targets, -, -, rfl, -, hmem, -⟩ := hby _ htrain
  refine ⟨hreach, (hstale (by decide)).1, ?_, hscan, by decide, by decide, ?_, by decide⟩
  · rw [hfound, hscan]
  · rw [← hmem, hyard]
    decide

end Lexicon

end MeaningGraph
