/-
# Handles are given out once

A run makes operations on a graph one after the other, with any arguments; an operation that fails leaves
the graph as it was.  Two operations give handles out: `create` gives one, and `deepCopy` one for each
machine that it copies.

    given out     g.Known id       the slot has reached the generation of the handle
    live          g.contains id    and has a machine in that very generation
    stale                          given out, but not live any more

`GivesOut g g' ids` says what one operation does, and a whole run as well: the handles `ids` are different and
were unknown in `g`, they are known in `g'`, and nothing else has become live.  As what is known stays known
and what is stale stays stale, the parts of a run compose, and no handle comes up in two of them.
-/
import Mathlib.Data.Set.Card
import MeaningGraph.Proofs.Graph.Copy

namespace MeaningGraph.Graph

/-! ## Runs -/

/-- An operation with its arguments. -/
inductive Operation where
  | create (name : String) (control : Option Control)
  | append (parent child : MachineId) (p : Nat)
  | remove (parent child : MachineId) (p : Nat)
  | removeEverywhere (parent child : MachineId)
  | setControl (id : MachineId) (control : Option Control)
  | deepCopy (root : MachineId)
  | retain (roots : List MachineId)

/-- The graph after a change that may fail, and then changes nothing. -/
def changed (g : Graph) : Except Error Graph → Graph
  | .ok g' => g'
  | .error _ => g

def perform (g : Graph) : Operation → Graph
  | .create name control => (g.create name control).2
  | .append parent child p => g.changed (g.append parent child p)
  | .remove parent child p => g.changed (g.remove parent child p)
  | .removeEverywhere parent child => g.changed (g.removeEverywhere parent child)
  | .setControl id control => g.changed (g.setControl id control)
  | .deepCopy root => g.changed ((g.deepCopy root).map (·.2))
  | .retain roots => (g.retain roots).2

/-- The handles that an operation gives out. -/
def handsOut (g : Graph) : Operation → List MachineId
  | .create name control => [(g.create name control).1]
  | .deepCopy root => (g.copies root).map (·.2)
  | _ => []

def run (g : Graph) (ops : List Operation) : Graph :=
  ops.foldl perform g

/-- The handles that a run gives out, in order. -/
def givenOut (g : Graph) : List Operation → List MachineId
  | [] => []
  | op :: ops => g.handsOut op ++ (g.perform op).givenOut ops

/-- Every use of the handle fails; where two handles are to be live, the child's is looked at first. -/
structure Refuses (g : Graph) (id : MachineId) : Prop where
  get : g.get id = .error (.stale id)
  append_child : ∀ p i, g.append p id i = .error (.stale id)
  append_parent : ∀ c i, g.append id c i = .error (.stale (if g.contains c then id else c))
  remove_child : ∀ p i, g.remove p id i = .error (.stale id)
  remove_parent : ∀ c i, g.remove id c i = .error (.stale (if g.contains c then id else c))
  removeEverywhere_child : ∀ p, g.removeEverywhere p id = .error (.stale id)
  removeEverywhere_parent : ∀ c, g.removeEverywhere id c = .error (.stale (if g.contains c then id else c))
  setControl : ∀ control, g.setControl id control = .error (.stale id)
  deepCopy : g.deepCopy id = .error (.stale id)

variable {g g' g'' : Graph} {id root : MachineId} {ids ids' : List MachineId}

theorem get_get_of_not_contains {α : Type} (h : g.contains id = false) (c : MachineId)
    (k : Machine → Machine → Except Error α) :
    (do let mc ← g.get c; let m ← g.get id; k mc m) = .error (.stale (if g.contains c then id else c)) := by
  cases hc : g.contains c with
  | false =>
    rw [get_of_not_contains hc]
    rfl
  | true =>
    obtain ⟨mc, hmc⟩ := contains_iff.1 hc
    rw [get_of_find? hmc, get_of_not_contains h]
    rfl

theorem refuses_of_not_contains (h : g.contains id = false) : g.Refuses id where
  get := get_of_not_contains h
  append_child p i := by
    rw [append, get_of_not_contains h]
    rfl
  append_parent c i := get_get_of_not_contains h c _
  remove_child p i := by
    rw [remove, get_of_not_contains h]
    rfl
  remove_parent c i := get_get_of_not_contains h c _
  removeEverywhere_child p := by
    rw [removeEverywhere, get_of_not_contains h]
    rfl
  removeEverywhere_parent c := get_get_of_not_contains h c _
  setControl control := by
    rw [Graph.setControl, get_of_not_contains h]
    rfl
  deepCopy := by
    rw [Graph.deepCopy, tree, get_of_not_contains h]
    rfl

/-! ## What is given out -/

/-- From `g` to `g'` the handles `ids` are given out, and no others. -/
structure GivesOut (g g' : Graph) (ids : List MachineId) : Prop where
  evolves : Evolves g g'
  nodup : ids.Nodup
  unknown : ∀ id ∈ ids, ¬ g.Known id
  known : ∀ id ∈ ids, g'.Known id
  live : ∀ id, g'.contains id = true → g.contains id = true ∨ id ∈ ids

theorem Evolves.givesOut_nil (h : Evolves g g')
    (hlive : ∀ id, g'.contains id = true → g.contains id = true) : GivesOut g g' [] where
  evolves := h
  nodup := List.nodup_nil
  unknown _ hid := (List.not_mem_nil hid).elim
  known _ hid := (List.not_mem_nil hid).elim
  live id hid := .inl (hlive id hid)

theorem Sound.givesOut_refl (h : g.Sound) : GivesOut g g [] :=
  h.evolves_refl.givesOut_nil fun _ hid => hid

theorem GivesOut.trans (h : GivesOut g g' ids) (h' : GivesOut g' g'' ids') :
    GivesOut g g'' (ids ++ ids') where
  evolves := h.evolves.trans h'.evolves
  nodup := by
    refine List.Nodup.append h.nodup h'.nodup ?_
    intro id hid hid'
    exact h'.unknown id hid' (h.known id hid)
  unknown id hid := by
    rcases List.mem_append.1 hid with hid | hid
    · exact h.unknown id hid
    · intro hknown
      exact h'.unknown id hid (h.evolves.ages.known id hknown)
  known id hid := by
    rcases List.mem_append.1 hid with hid | hid
    · exact h'.evolves.ages.known id (h.known id hid)
    · exact h'.known id hid
  live id hid := by
    rcases h'.live id hid with hid | hid
    · rcases h.live id hid with hid | hid
      · exact .inl hid
      · exact .inr (List.mem_append_left _ hid)
    · exact .inr (List.mem_append_right _ hid)

/-! ### One operation -/

theorem contains_update_update (g : Graph) (p c other : MachineId) (f k : Machine → Machine) :
    ((g.update p f).update c k).contains other = g.contains other := by
  rw [contains_update, contains_update]

theorem contains_append {p c : MachineId} {i : Nat} (happ : g.append p c i = .ok g') :
    g'.contains id = g.contains id := by
  obtain ⟨-, -, ⟨-, rfl⟩ | ⟨-, rfl⟩⟩ := append_cases happ
  · rfl
  · exact contains_update_update ..

theorem contains_remove {p c : MachineId} {i : Nat} (hrem : g.remove p c i = .ok g') :
    g'.contains id = g.contains id := by
  obtain ⟨-, -, rfl⟩ := remove_cases hrem
  exact contains_update_update ..

theorem contains_removeEverywhere {p c : MachineId} (hrem : g.removeEverywhere p c = .ok g') :
    g'.contains id = g.contains id := by
  obtain ⟨-, -, rfl⟩ := removeEverywhere_cases hrem
  exact contains_update_update ..

theorem contains_setControl {other : MachineId} {control : Option Control}
    (hset : g.setControl other control = .ok g') : g'.contains id = g.contains id := by
  obtain ⟨-, rfl⟩ := setControl_cases hset
  exact contains_update ..

theorem Sound.givesOut_changed (h : g.Sound) {r : Except Error Graph}
    (hevolves : ∀ g', r = .ok g' → Evolves g g')
    (hlive : ∀ g', r = .ok g' → ∀ id, g'.contains id = g.contains id) : GivesOut g (g.changed r) [] := by
  cases r with
  | error e => exact h.givesOut_refl
  | ok g' =>
    refine (hevolves g' rfl).givesOut_nil ?_
    intro id hid
    rwa [hlive g' rfl id] at hid

theorem Sound.givesOut_create (h : g.Sound) (name : String) (control : Option Control) :
    GivesOut g (g.create name control).2 [(g.create name control).1] where
  evolves := h.evolves_create name control
  nodup := List.nodup_singleton _
  unknown id hid := by
    rw [List.mem_singleton.1 hid]
    exact h.slots.not_known_create name control
  known id hid := by
    rw [List.mem_singleton.1 hid]
    exact .of_contains ((h.slots.contains_create name control).2 (.inl rfl))
  live id hid := by
    rcases (h.slots.contains_create name control).1 hid with rfl | hid
    · exact .inr List.mem_cons_self
    · exact .inl hid

theorem Copied.givesOut {copy : MachineId} {pairs : List (MachineId × MachineId)} (h : g.Sound)
    (hcopy : Copied g g' root copy pairs) : GivesOut g g' (pairs.map (·.2)) where
  evolves := hcopy.evolves h
  nodup := hcopy.nodup_copies
  unknown id hid := by
    obtain ⟨⟨a, b⟩, hab, rfl⟩ := List.mem_map.1 hid
    exact hcopy.fresh a b hab
  known id hid := by
    obtain ⟨⟨a, b⟩, hab, rfl⟩ := List.mem_map.1 hid
    obtain ⟨m, hm⟩ := hcopy.find?_original hab
    have hb : g'.find? b = some (relabel pairs m) := by rw [hcopy.find?_copy a b hab, hm]; rfl
    exact .of_contains (contains_of_find? hb)
  live id hid := by
    by_cases hmem : id ∈ pairs.map (·.2)
    · exact .inr hmem
    · have hother : g'.find? id = g.find? id := by
        refine hcopy.find?_other id ?_
        intro a ha
        exact hmem (List.mem_map.2 ⟨(a, id), ha, rfl⟩)
      rw [contains, hother] at hid
      exact .inl hid

theorem copies_of_not_contains (h : g.contains root = false) : g.copies root = [] := by
  have hroot : root ∉ g.handles := by
    rw [mem_handles_iff, h]
    exact Bool.false_ne_true
  rw [copies, descendants, Search.preorder_cons_of_not_mem hroot, Search.preorder_nil]
  rfl

theorem Sound.givesOut_deepCopy (h : g.Sound) (root : MachineId) :
    GivesOut g (g.changed ((g.deepCopy root).map (·.2))) ((g.copies root).map (·.2)) := by
  cases hroot : g.contains root with
  | true =>
    obtain ⟨copy, g', hok, hcopy⟩ := h.copied hroot
    rw [hok]
    exact hcopy.givesOut h
  | false =>
    rw [(refuses_of_not_contains hroot).deepCopy, copies_of_not_contains hroot]
    exact h.givesOut_refl

theorem Sound.givesOut_perform (h : g.Sound) (op : Operation) :
    GivesOut g (g.perform op) (g.handsOut op) := by
  cases op with
  | create name control => exact h.givesOut_create name control
  | append p c i =>
    refine h.givesOut_changed ?_ ?_
    · intro g' hok
      exact h.evolves_append hok
    · intro g' hok id
      exact contains_append hok
  | remove p c i =>
    refine h.givesOut_changed ?_ ?_
    · intro g' hok
      exact h.evolves_remove hok
    · intro g' hok id
      exact contains_remove hok
  | removeEverywhere p c =>
    refine h.givesOut_changed ?_ ?_
    · intro g' hok
      exact h.evolves_removeEverywhere hok
    · intro g' hok id
      exact contains_removeEverywhere hok
  | setControl other control =>
    refine h.givesOut_changed ?_ ?_
    · intro g' hok
      exact h.evolves_setControl hok
    · intro g' hok id
      exact contains_setControl hok
  | deepCopy root => exact h.givesOut_deepCopy root
  | retain roots =>
    refine (h.evolves_retain roots).givesOut_nil ?_
    intro id hid
    exact mem_handles_iff.1 (mem_handles_of_mem_descendants ((contains_retain g roots id).1 hid))

/-! ### A whole run -/

theorem Sound.givesOut_run (h : g.Sound) (ops : List Operation) :
    GivesOut g (g.run ops) (g.givenOut ops) := by
  induction ops generalizing g with
  | nil => exact h.givesOut_refl
  | cons op ops ih =>
    have hop := h.givesOut_perform op
    exact hop.trans (ih hop.evolves.sound)

theorem run_append (g : Graph) (ops later : List Operation) :
    g.run (ops ++ later) = (g.run ops).run later :=
  List.foldl_append

theorem ncard_of_nodup {P : MachineId → Prop} (hnodup : ids.Nodup) (h : ∀ id, id ∈ ids ↔ P id) :
    {id | P id}.ncard = ids.length := by
  have hset : {id | P id} = (ids.toFinset : Set MachineId) := by
    ext id
    simp [h]
  rw [hset, Set.ncard_coe_finset, List.toFinset_card_of_nodup hnodup]

theorem SlotsOrdered.live_eq_ncard (h : g.SlotsOrdered) : g.live = {id | g.contains id = true}.ncard := by
  rw [h.live_eq, ncard_of_nodup nodup_handles fun _ => mem_handles_iff]

/-- In a run that starts from the empty graph no handle is given out twice, so what `create` and `deepCopy`
answer next was never given out before; only handles that were given out are live.  A handle that is stale
after some of the operations stays stale whatever follows, and every use of it fails.  The free list holds the
empty slots, each once, a slot is occupied exactly when its generation is odd, and the counter of live machines
is their number. -/
theorem givenOut_once (ops later : List Operation) :
    (empty.givenOut ops).Nodup ∧
    (∀ name control, ((empty.run ops).create name control).1 ∉ empty.givenOut ops) ∧
    (∀ root copy g', (empty.run ops).deepCopy root = .ok (copy, g') →
      copy ∈ (empty.run ops).handsOut (.deepCopy root) ∧
        ∀ id ∈ (empty.run ops).handsOut (.deepCopy root), id ∉ empty.givenOut ops) ∧
    (∀ id, (empty.run ops).contains id = true → id ∈ empty.givenOut ops) ∧
    (∀ id ∈ empty.givenOut ops, (empty.run ops).contains id = false →
      (empty.run (ops ++ later)).contains id = false ∧ (empty.run (ops ++ later)).Refuses id) ∧
    (empty.run ops).SlotsOrdered ∧
    (empty.run ops).live = {id | (empty.run ops).contains id = true}.ncard := by
  have hrun := sound_empty.givesOut_run ops
  have hsound : (empty.run ops).Sound := hrun.evolves.sound
  refine ⟨hrun.nodup, ?_, ?_, ?_, ?_, hsound.slots, ?_⟩
  · intro name control hmem
    exact hsound.slots.not_known_create name control (hrun.known _ hmem)
  · intro root copy g' hcopy
    have hspec := hsound.deepCopy_cases hcopy
    refine ⟨List.mem_map.2 ⟨(root, copy), hspec.root_mem, rfl⟩, ?_⟩
    intro id hid hmem
    exact (hsound.givesOut_deepCopy root).unknown id hid (hrun.known id hmem)
  · intro id hlive
    rcases hrun.live id hlive with hnone | hmem
    · simp [contains, find?, empty] at hnone
    · exact hmem
  · intro id hmem hdead
    have hlater := hsound.givesOut_run later
    have hstale : (empty.run (ops ++ later)).contains id = false := by
      rw [run_append]
      refine Bool.eq_false_iff.2 ?_
      intro hlive
      rw [hlater.evolves.ages.stale id (hrun.known id hmem) hlive] at hdead
      cases hdead
    exact ⟨hstale, refuses_of_not_contains hstale⟩
  · exact hsound.slots.live_eq_ncard

/-- The slot of a released machine is used again, in its next generation. -/
example :
    empty.givenOut [.create "train" none, .create "track" none, .append ⟨0, 1⟩ ⟨1, 1⟩ 1, .deepCopy ⟨0, 1⟩,
      .retain [⟨2, 1⟩], .append ⟨0, 1⟩ ⟨2, 1⟩ 0, .create "ticket" none] =
    [⟨0, 1⟩, ⟨1, 1⟩, ⟨2, 1⟩, ⟨3, 1⟩, ⟨1, 3⟩] := by
  cbv

end MeaningGraph.Graph
