/-
The graph of machines.

    parent ──partition p──▶ child          child.parents ∋ (parent, p)

Machines live in slots and are addressed by handles.  A slot counts its generations: odd ones are
occupied, even ones free, so a freed machine's handle never fits again.  Freed slots are reused, the
one freed last first.

All reading goes through `find?`, which is `none` for a handle that is stale or was never given out;
all changes of a single machine go through `update`.
-/
import MeaningGraph.Machine

namespace MeaningGraph

/-- A place for a machine. -/
structure Slot where
  generation : Nat
  machine : Option Machine
deriving DecidableEq, Repr

/-- Machines by slot, the free slots with the next one to be used in front, and the number of live
machines. -/
structure Graph where
  slots : Array Slot := #[]
  free : List Nat := []
  live : Nat := 0
deriving DecidableEq, Repr

namespace Graph

def empty : Graph := {}

instance : Inhabited Graph := ⟨empty⟩

/-! ## Reading -/

/-- The machine that a handle names, if it is live. -/
def find? (g : Graph) (id : MachineId) : Option Machine :=
  match g.slots[id.index]? with
  | some slot => if slot.generation = id.generation then slot.machine else none
  | none => none

/-- The handle names a live machine. -/
def contains (g : Graph) (id : MachineId) : Bool :=
  (g.find? id).isSome

def get (g : Graph) (id : MachineId) : Except Error Machine :=
  match g.find? id with
  | some m => .ok m
  | none => .error (.stale id)

def name? (g : Graph) (id : MachineId) : Option String :=
  (g.find? id).map (·.name)

def name (g : Graph) (id : MachineId) : Except Error String :=
  (g.get id).map (·.name)

/-- The control of a machine, if it is live and has one. -/
def control? (g : Graph) (id : MachineId) : Option Control :=
  (g.find? id).bind (·.control)

/-- The handles of the live machines, in order. -/
def handles (g : Graph) : List MachineId :=
  g.slots.toList.zipIdx.filterMap fun (slot, i) =>
    if slot.machine.isSome then some ⟨i, slot.generation⟩ else none

/-- The children of a machine, each once, in order of first occurrence. -/
def children (g : Graph) (id : MachineId) : Except Error (List MachineId) :=
  (g.get id).map fun m => m.links.foldl (fun seen c => if c ∈ seen then seen else seen ++ [c]) []

/-! ## Changing -/

/-- Changes the machine that a live handle names. -/
def update (g : Graph) (id : MachineId) (f : Machine → Machine) : Graph :=
  if g.contains id then
    { g with slots := g.slots.modify id.index fun slot => { slot with machine := slot.machine.map f } }
  else g

/-- Puts a new machine into the slot freed last, or into a new slot. -/
def create (g : Graph) (name : String) (control : Option Control) : MachineId × Graph :=
  let m : Machine := { name, control }
  match g.free with
  | [] =>
    (⟨g.slots.size, 1⟩, { g with slots := g.slots.push ⟨1, some m⟩, live := g.live + 1 })
  | index :: free =>
    let generation := (g.slots[index]?.map (·.generation)).getD 0 + 1
    (⟨index, generation⟩,
      { slots := g.slots.setIfInBounds index ⟨generation, some m⟩, free, live := g.live + 1 })

/-- Appends a child to a partition of the parent, which grows as needed.  A child that is there
already stays where it is. -/
def append (g : Graph) (parent child : MachineId) (p : Nat) : Except Error Graph := do
  let _ ← g.get child
  let m ← g.get parent
  if child ∈ m.part p then
    return g
  else
    return (g.update parent (·.addChild child p)).update child (·.addParent ⟨parent, p⟩)

/-- Removes a child from one partition of the parent, where it has to be. -/
def remove (g : Graph) (parent child : MachineId) (p : Nat) : Except Error Graph := do
  let c ← g.get child
  let m ← g.get parent
  if child ∈ m.part p then
    return (g.update parent (·.dropChild child p)).update child
      (·.keepParents fun link => link ≠ ⟨parent, p⟩)
  else
    throw (.notFound m.name c.name p)

/-- Removes a child from every partition of the parent that holds it. -/
def removeEverywhere (g : Graph) (parent child : MachineId) : Except Error Graph := do
  let _ ← g.get child
  let _ ← g.get parent
  return (g.update parent (·.dropChildEverywhere child)).update child
    (·.keepParents fun link => link.parent ≠ parent)

def setControl (g : Graph) (id : MachineId) (control : Option Control) : Except Error Graph := do
  let _ ← g.get id
  return g.update id fun m => { m with control }

/-! ## The view -/

theorem find?_update (g : Graph) (id other : MachineId) (f : Machine → Machine) :
    (g.update id f).find? other = if other = id then (g.find? id).map f else g.find? other := by
  obtain ⟨i, n⟩ := id
  obtain ⟨j, k⟩ := other
  unfold update
  split
  · rename_i hlive
    by_cases hij : j = i
    · subst hij
      cases hs : g.slots[j]? with
      | none => simp [contains, find?, hs] at hlive
      | some slot =>
        simp only [find?, Array.getElem?_modify, hs, if_true, Option.map_some, MachineId.mk.injEq,
          true_and]
        by_cases hn : slot.generation = n
        · subst hn
          by_cases hk : slot.generation = k
          · subst hk
            simp
          · simp [hk, Ne.symm hk]
        · simp [contains, find?, hs, hn] at hlive
    · simp [find?, Array.getElem?_modify, Ne.symm hij, hij]
  · rename_i hdead
    split
    · rename_i h
      obtain ⟨rfl, rfl⟩ := MachineId.mk.injEq .. ▸ h
      cases hf : g.find? ⟨j, k⟩ with
      | none => rfl
      | some m => simp [contains, hf] at hdead
    · rfl

end Graph

end MeaningGraph
