/-
# Hypernyms are what a chain leads to

A machine `u` is right above `x` in one of two ways, and a search that has come to `u` goes on from `u` and from the
definition of its name:

    x ──0──▶ u          x ◀──1── IS_A ──2──▶ u          u, or the definition of u's name

Chains of such steps may run in cycles, a name may have several machines, and a definition may be stale.  The search
for hypernyms follows all chains from a machine and nothing else (`Sound.mem_hypernyms_iff`): what it visits is live,
and a chain stops at a stale machine by itself, as nothing is right above one.

So the members of a name are those definitions from which a chain leads to a machine of the name.  A chain that ends at
a name can be continued from the definition of the name, which makes membership transitive.
-/
import MeaningGraph.Lexicon.Relation
import MeaningGraph.Proofs.Lexicon.Once

namespace MeaningGraph

open Relation (ReflTransGen)

/-! ## Targets of relations -/

namespace Graph

variable {g : Graph} {source target : MachineId} {relation : String}

/-- A machine of the relation's name holds the source in partition 1 and the target in partition 2. -/
def Relates (g : Graph) (relation : String) (source target : MachineId) : Prop :=
  ∃ r, g.name? r = some relation ∧ g.Holds r 1 source ∧ g.Holds r 2 target

/-- The relations of a machine are found through its back-links. -/
theorem Sound.mem_targetsOf_iff (h : g.Sound) :
    target ∈ g.targetsOf source relation ↔ g.Relates relation source target := by
  have hread : target ∈ g.targetsOf source relation ↔
      ∃ r, g.HeldBy source r 1 ∧ g.name? r = some relation ∧ g.Holds r 2 target := by
    unfold targetsOf
    cases hsource : g.find? source with
    | none => simp [HeldBy, hsource]
    | some m =>
      rw [Search.mem_foldl_unseen]
      simp only [List.not_mem_nil, false_or, List.mem_flatMap, List.mem_filter, Bool.and_eq_true,
        decide_eq_true_eq, beq_iff_eq, heldBy_iff_of_find? hsource]
      constructor
      · rintro ⟨⟨r, i⟩, ⟨hlink, rfl, hname⟩, htarget⟩
        obtain ⟨mr, hr, -⟩ := Option.map_eq_some_iff.1 hname
        rw [hr] at htarget
        exact ⟨r, hlink, hname, mr, hr, htarget⟩
      · rintro ⟨r, hlink, hname, mr, hr, htarget⟩
        refine ⟨⟨r, 1⟩, ⟨hlink, rfl, hname⟩, ?_⟩
        rw [hr]
        exact htarget
  rw [hread]
  refine exists_congr fun r => ?_
  rw [h.links.holds_iff r 1 source]
  exact and_left_comm

end Graph

namespace Lexicon

variable {l : Lexicon} {x y u v id : MachineId} {name : String}

/-! ## Chains -/

/-- A machine of the one is a child of the other in partition 0, or a target of its relation `IS_A`. -/
def RightAbove (l : Lexicon) (x u : MachineId) : Prop :=
  l.graph.Holds x 0 u ∨ l.graph.Relates isA x u

/-- A chain that has come to `u` goes on from `x`, which is `u` itself or the definition of its name. -/
def Resumes (l : Lexicon) (u x : MachineId) : Prop :=
  x = u ∨ ∃ name, l.graph.name? u = some name ∧ l.static? name = some x

/-- A chain of machines, each right above the one before, or above the definition of its name. -/
inductive Climbs (l : Lexicon) : MachineId → MachineId → Prop
  | one {x u : MachineId} (h : l.RightAbove x u) : Climbs l x u
  | cons {x u y v : MachineId} (h : l.RightAbove x u) (hresumes : l.Resumes u y) (hrest : Climbs l y v) :
      Climbs l x v

theorem Climbs.append (h : l.Climbs x u) (hresumes : l.Resumes u y) (h' : l.Climbs y v) : l.Climbs x v := by
  induction h with
  | one hup => exact .cons hup hresumes h'
  | cons hup hnext _ ih => exact .cons hup hnext (ih hresumes)

theorem RightAbove.contains (h : l.RightAbove x u) (hl : l.Sound) :
    l.graph.contains x = true ∧ l.graph.contains u = true := by
  rcases h with hold | ⟨r, -, hsource, htarget⟩
  · exact ⟨hold.contains, hl.graph.contains_child hold⟩
  · exact ⟨hl.graph.contains_child hsource, hl.graph.contains_child htarget⟩

theorem Climbs.contains (h : l.Climbs x u) (hl : l.Sound) : l.graph.contains x = true := by
  cases h with
  | one hup => exact (hup.contains hl).1
  | cons hup _ _ => exact (hup.contains hl).1

/-! ## The search -/

theorem Sound.mem_above_iff (hl : l.Sound) : u ∈ l.above x ↔ l.RightAbove x u := by
  have hpart : u ∈ ((l.graph.find? x).map (·.part 0)).getD [] ↔ l.graph.Holds x 0 u := by
    cases hx : l.graph.find? x with
    | none => simp [Graph.Holds, hx]
    | some m => simp [Graph.holds_iff_of_find? hx]
  rw [above, List.mem_filter, List.mem_append, hpart, hl.graph.mem_targetsOf_iff]
  exact ⟨fun h => h.1, fun h => ⟨h, (RightAbove.contains h hl).2⟩⟩

theorem Sound.mem_upward_iff (hl : l.Sound) :
    y ∈ l.upward x ↔ ∃ u, l.RightAbove x u ∧ l.Resumes u y := by
  simp only [upward, List.mem_flatMap, hl.mem_above_iff, List.mem_append, Option.mem_toList,
    Option.bind_eq_some_iff, List.mem_singleton]
  exact exists_congr fun u => and_congr_right fun _ => or_comm

/-- The search visits the start and what chains lead on to, as long as it is live. -/
theorem Sound.climbs_of_visited (hl : l.Sound)
    (hid : id ∈ Search.preorder l.upward l.graph.handles [x]) (hup : l.RightAbove id u) : l.Climbs x u := by
  obtain ⟨a, ha, -, path⟩ := Search.exists_path_of_mem_preorder hid
  obtain rfl := List.mem_singleton.1 ha
  clear hid ha
  induction path using ReflTransGen.head_induction_on with
  | refl => exact .one hup
  | head hstep _ ih =>
    obtain ⟨w, hw, hresumes⟩ := hl.mem_upward_iff.1 hstep.1
    exact .cons hw hresumes ih

/-- What stands at the end of a chain from a visited machine is right above one.  The rest of the chain begins with
a live machine, so the search enters it. -/
theorem Sound.visited_of_climbs (hl : l.Sound) {start : MachineId} (h : l.Climbs x u)
    (hx : x ∈ Search.preorder l.upward l.graph.handles [start]) :
    ∃ id ∈ Search.preorder l.upward l.graph.handles [start], l.RightAbove id u := by
  induction h with
  | one hup => exact ⟨_, hx, hup⟩
  | cons hup hresumes hrest ih =>
    have hnext := Graph.mem_handles_iff.2 (hrest.contains hl)
    exact ih (Search.mem_preorder_of_follows hx ⟨hl.mem_upward_iff.2 ⟨_, hup, hresumes⟩, hnext⟩)

theorem Sound.mem_hypernyms_iff (hl : l.Sound) :
    name ∈ l.hypernyms x ↔ ∃ u, l.Climbs x u ∧ l.graph.name? u = some name := by
  simp only [hypernyms, List.mem_flatMap, List.mem_filterMap, hl.mem_above_iff]
  constructor
  · rintro ⟨id, hid, u, hup, hname⟩
    exact ⟨u, hl.climbs_of_visited hid hup, hname⟩
  · rintro ⟨u, hclimbs, hname⟩
    have hx : x ∈ Search.preorder l.upward l.graph.handles [x] :=
      Search.mem_preorder_of_pending List.mem_cons_self (Graph.mem_handles_iff.2 (hclimbs.contains hl))
    obtain ⟨id, hid, hup⟩ := hl.visited_of_climbs hclimbs hx
    exact ⟨id, hid, u, hup, hname⟩

/-! ## Members -/

theorem Reachable.mem_isAMembers_iff (h : l.Reachable) {member : String} :
    member ∈ l.isAMembers name ↔
      member ≠ name ∧ ∃ d u, l.static? member = some d ∧ l.Climbs d u ∧ l.graph.name? u = some name := by
  simp only [isAMembers, List.mem_map, List.mem_filter, Prod.exists, h.keyed.ordered.mem_entries_iff,
    Bool.and_eq_true, decide_eq_true_eq, List.contains_iff_mem, h.sound.mem_hypernyms_iff]
  constructor
  · rintro ⟨_, d, ⟨hstatic, hne, u, hclimbs, hname⟩, rfl⟩
    exact ⟨hne, d, u, hstatic, hclimbs, hname⟩
  · rintro ⟨hne, d, u, hstatic, hclimbs, hname⟩
    exact ⟨member, d, ⟨hstatic, hne, u, hclimbs, hname⟩, rfl⟩

/-- In every lexicon that can be reached the members of a name are the static names, other than itself, from whose
definition a chain leads to a machine of the name.  Each machine of the chain is a child in partition 0 of the one
before, or a child in partition 2 of a machine `IS_A` that holds it in partition 1; and from each the chain goes on
itself or with the definition of its name.  So a member of a member is a member, unless it is the name itself. -/
theorem isAMembers_transitive_closure (h : l.Reachable) :
    (∀ member name, member ∈ l.isAMembers name ↔
      member ≠ name ∧ ∃ d u, l.static? member = some d ∧ l.Climbs d u ∧ l.graph.name? u = some name) ∧
    ∀ a b c, a ∈ l.isAMembers b → b ∈ l.isAMembers c → a ≠ c → a ∈ l.isAMembers c := by
  refine ⟨fun _ _ => h.mem_isAMembers_iff, ?_⟩
  intro a b c hab hbc hne
  obtain ⟨-, d, u, hstatic, hclimbs, hname⟩ := h.mem_isAMembers_iff.1 hab
  obtain ⟨-, d', v, hstatic', hclimbs', hname'⟩ := h.mem_isAMembers_iff.1 hbc
  -- the chain that has come to a machine named `b` goes on from the definition of `b`
  have hresumes : l.Resumes u d' := .inr ⟨b, hname, hstatic'⟩
  exact h.mem_isAMembers_iff.2 ⟨hne, d, v, hstatic, hclimbs.append hresumes hclimbs', hname'⟩

/-- A poodle holds a dog of its own; the definition of a dog is related to an animal by `IS_A`, and the animal holds
the definition of a dog. -/
def kennel : Lexicon :=
  empty.replay [.create "poodle" none, .create "dog" none, .create "dog" none, .create isA none,
    .create "animal" none, .append ⟨0, 1⟩ ⟨1, 1⟩ 0, .append ⟨3, 1⟩ ⟨2, 1⟩ 1, .append ⟨3, 1⟩ ⟨4, 1⟩ 2,
    .append ⟨4, 1⟩ ⟨2, 1⟩ 0, .addStatic [⟨0, 1⟩, ⟨2, 1⟩, ⟨4, 1⟩]]

/-- The chain from the poodle goes by way of the definition of a dog, and the links among the definitions run in a
cycle, so that a dog is no member of its own name. -/
theorem isAMembers_transitive_closure_kennel :
    kennel.Reachable ∧ "poodle" ∈ kennel.isAMembers "dog" ∧ "dog" ∈ kennel.isAMembers "animal" ∧
      "poodle" ∈ kennel.isAMembers "animal" ∧ "dog" ∉ kennel.isAMembers "dog" := by
  have hreach : kennel.Reachable := ⟨_, rfl⟩
  obtain ⟨hmembers, htransitive⟩ := isAMembers_transitive_closure hreach
  have hpoodle : kennel.RightAbove ⟨0, 1⟩ ⟨1, 1⟩ := .inl ⟨_, rfl, by decide⟩
  have hdog : kennel.RightAbove ⟨2, 1⟩ ⟨4, 1⟩ :=
    .inr ⟨⟨3, 1⟩, rfl, ⟨_, rfl, by decide⟩, ⟨_, rfl, by decide⟩⟩
  have hfirst : "poodle" ∈ kennel.isAMembers "dog" :=
    (hmembers _ _).2 ⟨by decide, _, _, rfl, .one hpoodle, rfl⟩
  have hsecond : "dog" ∈ kennel.isAMembers "animal" :=
    (hmembers _ _).2 ⟨by decide, _, _, rfl, .one hdog, rfl⟩
  refine ⟨hreach, hfirst, hsecond, htransitive _ _ _ hfirst hsecond (by decide), ?_⟩
  exact fun hself => ((hmembers _ _).1 hself).1 rfl

end Lexicon

end MeaningGraph
