/-
# Operations in place

The operations on a graph answer a new graph or an error, so nothing is left of what a failing operation did.  Here
they are made of steps on one graph that is changed in place, one machine at a time: each step looks its handle up
again and may fail, and what the steps before it changed stays changed.

    append p c i     look at c, pad the partitions of p, look for c in partition i,
                     put c into it, record the back-link on c
    remove p c i     look at c, look for c in partition i of p, take it out, drop the back-link

Two partial changes could stay behind: partitions that were padded for a child that turns out to be there, and a
child without its back-link.  Neither does.  A partition that has the child needs no padding, and changing one
machine makes no handle stale, so after the first change no step fails.

`settled g r` is the outcome of an operation in place that comes to `r`: the answer and the changed graph, or the error
and the graph as it was.  Every operation ends so.
-/
import MeaningGraph.Graph.Fold
import MeaningGraph.Proofs.Graph.Handles

namespace MeaningGraph

/-- Steps on one graph that is changed in place.  A step that fails leaves behind what was changed before it; there
is no outcome when a recursion goes deeper than it may. -/
abbrev GraphM := ExceptT Error (StateT Graph Option)

namespace Graph

variable {g g' : Graph} {id p c : MachineId} {i : Nat} {m : Machine} {f k : Machine → Machine}

/-! ## Graphs with the same slots -/

/-- The graphs have the same slots in the same generations, the same free list and the same counter. -/
structure SameSlots (g g' : Graph) : Prop where
  generation : ∀ i : Nat, (g.slots[i]?).map (·.generation) = (g'.slots[i]?).map (·.generation)
  free : g.free = g'.free
  live : g.live = g'.live

theorem SameSlots.refl (g : Graph) : SameSlots g g :=
  ⟨fun _ => rfl, rfl, rfl⟩

theorem SameSlots.symm (h : SameSlots g g') : SameSlots g' g :=
  ⟨fun i => (h.generation i).symm, h.free.symm, h.live.symm⟩

theorem SameSlots.trans {g'' : Graph} (h : SameSlots g g') (h' : SameSlots g' g'') : SameSlots g g'' :=
  ⟨fun i => (h.generation i).trans (h'.generation i), h.free.trans h'.free, h.live.trans h'.live⟩

theorem SameSlots.eq (h : SameSlots g g') (hfind : ∀ id, g.find? id = g'.find? id) : g = g' := by
  obtain ⟨slots, free, live⟩ := g
  obtain ⟨slots', free', live'⟩ := g'
  obtain ⟨hgen, rfl, rfl⟩ := h
  have hslots : slots = slots' := by
    refine Array.ext_getElem? fun i => ?_
    have hi := hgen i
    cases hs : slots[i]? with
    | none => simp_all
    | some slot =>
      obtain ⟨n, occupant⟩ := slot
      cases hs' : slots'[i]? with
      | none => simp_all
      | some slot' =>
        obtain ⟨n', occupant'⟩ := slot'
        simp only [hs, hs', Option.map_some, Option.some.injEq] at hi
        subst hi
        have hmachine := hfind ⟨i, n⟩
        simp only [find?, hs, hs', if_true] at hmachine
        rw [hmachine]
  rw [hslots]

theorem sameSlots_update (g : Graph) (id : MachineId) (f : Machine → Machine) :
    SameSlots (g.update id f) g where
  generation i := by
    rcases getElem?_update g id f i with h | ⟨n, m, h, h'⟩
    · rw [h]
    · rw [h, h']
      rfl
  free := by
    unfold update
    split <;> rfl
  live := by
    unfold update
    split <;> rfl

theorem update_update (g : Graph) (id : MachineId) (f k : Machine → Machine) :
    (g.update id f).update id k = g.update id fun m => k (f m) := by
  refine SameSlots.eq ?_ fun other => ?_
  · exact ((sameSlots_update ..).trans (sameSlots_update ..)).trans (sameSlots_update ..).symm
  · simp only [find?_update]
    split <;> simp [Function.comp_def]

theorem update_eq_self (h : ∀ m, g.find? id = some m → f m = m) : g.update id f = g := by
  refine (sameSlots_update g id f).eq fun other => ?_
  rw [find?_update]
  split
  · rename_i hid
    subst hid
    cases hm : g.find? other with
    | none => rfl
    | some m => rw [Option.map_some, h m hm]
  · rfl

theorem update_congr (h : ∀ m, g.find? id = some m → f m = k m) : g.update id f = g.update id k := by
  refine ((sameSlots_update g id f).trans (sameSlots_update g id k).symm).eq fun other => ?_
  rw [find?_update, find?_update]
  split
  · cases hm : g.find? id with
    | none => rfl
    | some m => rw [Option.map_some, Option.map_some, h m hm]
  · rfl

/-! ## Removing -/

theorem remove_of_find? {mc : Machine} (hp : g.find? p = some m) (hc : g.find? c = some mc) (i : Nat) :
    g.remove p c i =
      if c ∈ m.part i then .ok (g.unlink p c i) else .error (.notFound m.name mc.name i) := by
  rw [Graph.remove, get_of_find? hc, get_of_find? hp]
  rfl

/-! ## Steps -/

namespace InPlace

/-- Looks at the machine of a live handle. -/
def read (id : MachineId) : GraphM Machine := fun g =>
  match g.find? id with
  | some m => some (.ok m, g)
  | none => some (.error (.stale id), g)

/-- Changes the machine of a live handle. -/
def change (id : MachineId) (f : Machine → Machine) : GraphM Unit := fun g =>
  if g.contains id then some (.ok (), g.update id f) else some (.error (.stale id), g)

def create (name : String) (control : Option Control) : GraphM MachineId := fun g =>
  some (.ok (g.create name control).1, (g.create name control).2)

/-- The machine with its partitions padded. -/
def pad (n : Nat) (m : Machine) : Machine :=
  { m with parts := Machine.padded n m.parts }

def append (parent child : MachineId) (p : Nat) : GraphM Unit := do
  let _ ← read child
  change parent (pad (p + 1))
  let m ← read parent
  if child ∈ m.part p then
    return
  else
    change parent fun m => { m with parts := m.parts.modify p (· ++ [child]) }
    change child (·.addParent ⟨parent, p⟩)

/-- Removes a child from one partition of the parent, where it has to be. -/
def remove (parent child : MachineId) (p : Nat) : GraphM Unit := do
  let _ ← read child
  let m ← read parent
  if child ∈ m.part p then
    change parent (·.dropChild child p)
    change child (·.keepParents fun link => link ≠ ⟨parent, p⟩)
  else
    let c ← read child
    throw (.notFound m.name c.name p)

/-- The numbers of the partitions that hold the child. -/
def holding (m : Machine) (child : MachineId) : List Nat :=
  (List.range m.parts.length).filter fun p => child ∈ m.part p

/-- Removes a child from every partition of the parent that holds it, and then the back-link of each of these
partitions. -/
def removeEverywhere (parent child : MachineId) : GraphM Unit := do
  let _ ← read child
  let m ← read parent
  change parent (·.dropChildEverywhere child)
  change child fun c =>
    (holding m child).foldl (fun c p => c.keepParents fun link => link ≠ ⟨parent, p⟩) c

/-- Sets the control of a machine and answers the old one. -/
def setControl (id : MachineId) (control : Option Control) : GraphM (Option Control) := do
  let m ← read id
  change id fun m => { m with control }
  return m.control

/-- The outcome of an operation that comes to `r`: an error leaves the graph as it was. -/
def settled {α : Type} (g : Graph) : Except Error (α × Graph) → Option (Except Error α × Graph)
  | .ok (a, g') => some (.ok a, g')
  | .error e => some (.error e, g)

/-! ### How steps go on -/

section Steps

variable {α β : Type} {x : GraphM α} {next : α → GraphM β} {a : α} {e : Error}

theorem bind_of_ok (h : x g = some (.ok a, g')) : (x >>= next) g = next a g' := by
  change (x g).bind _ = _
  rw [h]
  rfl

theorem bind_of_error (h : x g = some (.error e, g')) : (x >>= next) g = some (.error e, g') := by
  change (x g).bind _ = _
  rw [h]
  rfl

theorem read_of_find? (h : g.find? id = some m) : read id g = some (.ok m, g) := by
  rw [read, h]

theorem read_of_not_contains (h : g.contains id = false) : read id g = some (.error (.stale id), g) := by
  rw [read, find?_eq_none_of_not_contains h]

theorem change_of_contains (h : g.contains id = true) : change id f g = some (.ok (), g.update id f) := by
  rw [change, if_pos h]

theorem change_of_not_contains (h : g.contains id = false) :
    change id f g = some (.error (.stale id), g) := by
  rw [change, if_neg (by simp [h])]

end Steps

/-! ## Each operation in place -/

theorem part_pad (n : Nat) (m : Machine) (i : Nat) : (pad n m).part i = m.part i := by
  simp only [Machine.part, pad, List.getD_eq_getElem?_getD, Machine.getD_padded]

theorem pad_of_mem_part (h : c ∈ m.part i) : pad (i + 1) m = m := by
  obtain ⟨part, hpart, -⟩ := Machine.mem_part_iff.1 h
  obtain ⟨hlt, -⟩ := List.getElem?_eq_some_iff.1 hpart
  have hnone : i + 1 - m.parts.length = 0 := by omega
  rw [pad, Machine.padded, hnone, List.replicate_zero, List.append_nil]

theorem append_settled (g : Graph) (p c : MachineId) (i : Nat) :
    append p c i g = settled g ((g.append p c i).map ((), ·)) := by
  cases hc : g.contains c with
  | false =>
    rw [(refuses_of_not_contains hc).append_child]
    exact bind_of_error (read_of_not_contains hc)
  | true =>
    obtain ⟨mc, hmc⟩ := contains_iff.1 hc
    refine (bind_of_ok (read_of_find? hmc)).trans ?_
    cases hp : g.contains p with
    | false =>
      rw [(refuses_of_not_contains hp).append_parent, hc]
      exact bind_of_error (change_of_not_contains hp)
    | true =>
      obtain ⟨m, hm⟩ := contains_iff.1 hp
      have hpadded : (g.update p (pad (i + 1))).find? p = some (pad (i + 1) m) := by
        rw [find?_update, if_pos rfl, hm]
        rfl
      rw [append_eq hm hc]
      refine (bind_of_ok (change_of_contains hp)).trans ((bind_of_ok (read_of_find? hpadded)).trans ?_)
      rw [part_pad]
      by_cases hmem : c ∈ m.part i
      · -- the child is there, and padding changed nothing
        have hsame : g.update p (pad (i + 1)) = g := by
          refine update_eq_self fun m' hm' => ?_
          rw [hm] at hm'
          cases hm'
          exact pad_of_mem_part hmem
        rw [if_pos hmem, if_pos hmem, hsame]
        rfl
      · rw [if_neg hmem, if_neg hmem]
        refine (bind_of_ok (change_of_contains ((contains_update ..).trans hp))).trans ?_
        rw [update_update]
        exact change_of_contains ((contains_update ..).trans hc)

theorem remove_settled (g : Graph) (p c : MachineId) (i : Nat) :
    remove p c i g = settled g ((g.remove p c i).map ((), ·)) := by
  cases hc : g.contains c with
  | false =>
    rw [(refuses_of_not_contains hc).remove_child]
    exact bind_of_error (read_of_not_contains hc)
  | true =>
    obtain ⟨mc, hmc⟩ := contains_iff.1 hc
    refine (bind_of_ok (read_of_find? hmc)).trans ?_
    cases hp : g.contains p with
    | false =>
      rw [(refuses_of_not_contains hp).remove_parent, hc]
      exact bind_of_error (read_of_not_contains hp)
    | true =>
      obtain ⟨m, hm⟩ := contains_iff.1 hp
      refine (bind_of_ok (read_of_find? hm)).trans ?_
      rw [remove_of_find? hm hmc]
      by_cases hmem : c ∈ m.part i
      · rw [if_pos hmem, if_pos hmem]
        refine (bind_of_ok (change_of_contains hp)).trans ?_
        exact change_of_contains ((contains_update ..).trans hc)
      · rw [if_neg hmem, if_neg hmem]
        exact bind_of_ok (read_of_find? hmc)

theorem setControl_settled (g : Graph) (id : MachineId) (control : Option Control) :
    setControl id control g =
      settled g ((g.setControl id control).map fun g' => (g.control? id, g')) := by
  cases hid : g.contains id with
  | false =>
    rw [(refuses_of_not_contains hid).setControl]
    exact bind_of_error (read_of_not_contains hid)
  | true =>
    obtain ⟨m, hm⟩ := contains_iff.1 hid
    refine (bind_of_ok (read_of_find? hm)).trans ((bind_of_ok (change_of_contains hid)).trans ?_)
    rw [Graph.setControl, get_of_find? hm, control?, hm]
    rfl

/-! ### From everywhere -/

theorem mem_holding_iff {q : Nat} : q ∈ holding m c ↔ c ∈ m.part q := by
  simp only [holding, List.mem_filter, List.mem_range, decide_eq_true_eq, and_iff_right_iff_imp]
  intro h
  obtain ⟨part, hpart, -⟩ := Machine.mem_part_iff.1 h
  exact (List.getElem?_eq_some_iff.1 hpart).1

/-- Back-links that are dropped one after the other are dropped together. -/
theorem foldl_keepParents (ps : List Nat) (p : MachineId) (m : Machine) :
    ps.foldl (fun c q => c.keepParents fun link => link ≠ ⟨p, q⟩) m =
      m.keepParents fun link => ∀ q ∈ ps, link ≠ ⟨p, q⟩ := by
  induction ps generalizing m with
  | nil => exact (Machine.keepParents_eq_self (by simp)).symm
  | cons q ps ih =>
    rw [List.foldl_cons, ih]
    simp only [Machine.keepParents, List.filter_filter]
    congr 1
    refine List.filter_congr fun link _ => ?_
    rw [Bool.eq_iff_iff]
    simp [and_comm]

/-- Where each back-link stands for a link, those to a parent are the ones of the partitions that hold the
child. -/
theorem foldl_holding {mc : Machine} (hp : g.find? p = some m)
    (hlinks : ∀ link ∈ mc.parents, g.Holds link.parent link.partition c) :
    (holding m c).foldl (fun c q => c.keepParents fun link => link ≠ ⟨p, q⟩) mc =
      mc.keepParents fun link => link.parent ≠ p := by
  rw [foldl_keepParents]
  simp only [Machine.keepParents]
  congr 1
  refine List.filter_congr fun link hlink => ?_
  rw [Bool.eq_iff_iff]
  simp only [decide_eq_true_eq]
  constructor
  · rintro hall rfl
    exact hall link.partition (mem_holding_iff.2 ((holds_iff_of_find? hp).1 (hlinks link hlink))) rfl
  · rintro hne q - rfl
    exact hne rfl

theorem removeEverywhere_settled (h : g.Sound) (p c : MachineId) :
    removeEverywhere p c g = settled g ((g.removeEverywhere p c).map ((), ·)) := by
  cases hc : g.contains c with
  | false =>
    rw [(refuses_of_not_contains hc).removeEverywhere_child]
    exact bind_of_error (read_of_not_contains hc)
  | true =>
    obtain ⟨mc, hmc⟩ := contains_iff.1 hc
    refine (bind_of_ok (read_of_find? hmc)).trans ?_
    cases hp : g.contains p with
    | false =>
      rw [(refuses_of_not_contains hp).removeEverywhere_parent, hc]
      exact bind_of_error (read_of_not_contains hp)
    | true =>
      obtain ⟨m, hm⟩ := contains_iff.1 hp
      refine (bind_of_ok (read_of_find? hm)).trans ((bind_of_ok (change_of_contains hp)).trans ?_)
      refine (change_of_contains ((contains_update ..).trans hc)).trans ?_
      -- the first change keeps all back-links, also those of a machine that holds itself
      have hdropped : ((g.update p (·.dropChildEverywhere c)).update c fun mc =>
          (holding m c).foldl (fun c q => c.keepParents fun link => link ≠ ⟨p, q⟩) mc) = g.unlinkAll p c := by
        refine update_congr fun mc' hmc' => foldl_holding hm fun link hlink => ?_
        have hheld : (g.update p (·.dropChildEverywhere c)).HeldBy c link.parent link.partition :=
          ⟨mc', hmc', hlink⟩
        rw [heldBy_update] at hheld
        refine (h.links.holds_iff ..).2 ?_
        split at hheld
        · rename_i hcp
          exact hcp ▸ hheld
        · exact hheld
      rw [Graph.removeEverywhere, get_of_find? hmc, get_of_find? hm, hdropped]
      rfl

end InPlace

end Graph

end MeaningGraph
