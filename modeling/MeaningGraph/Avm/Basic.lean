/-
Attribute-value matrices: named slots, each to be filled by a machine that fits.

    from : <CAS<ELA>>      required
    to   : <CAS<ILL>>      required
    when : tomorrow        optional, "today" when empty

A machine fills every empty slot that takes it, and a filled slot takes no other.  The matrix is
satisfied when its formula holds or, without one, when every required slot is filled and no negative
slot is.
-/
import MeaningGraph.Avm.Formula
import MeaningGraph.Matcher

namespace MeaningGraph

/-- What a slot contributes to satisfaction: a negative slot has to stay empty. -/
inductive SlotKind where
  | required
  | optional
  | negative
deriving DecidableEq, Repr

/-- A slot of a matrix. -/
structure AvmSlot where
  name : String
  matcher : Matcher
  kind : SlotKind
  default : Option String := none
  value : Option MachineId := none
deriving Repr

/-- A matrix. -/
structure Avm where
  slots : List AvmSlot := []
  formula : Option Formula := none
deriving Repr

namespace AvmSlot

def isFilled (s : AvmSlot) : Bool :=
  s.value.isSome

/-- The slot is empty and would take the machine. -/
def takes (g : Graph) (id : MachineId) (s : AvmSlot) : Bool :=
  !s.isFilled && s.matcher.accepts g id

/-- The slot after the machine was offered to it. -/
def offer (g : Graph) (id : MachineId) (s : AvmSlot) : AvmSlot :=
  if s.takes g id then { s with value := some id } else s

/-- The slot meets the rule of its kind. -/
def isSatisfied (s : AvmSlot) : Bool :=
  match s.kind with
  | .required => s.isFilled
  | .optional => true
  | .negative => !s.isFilled

/-- The text of the slot: the name of the machine in it, or the default when it is empty. -/
def text? (g : Graph) (s : AvmSlot) : Option String :=
  match s.value with
  | some id => g.name? id
  | none => s.default

end AvmSlot

namespace Avm

def empty : Avm := {}

instance : Inhabited Avm := ⟨empty⟩

/-- Puts a slot in the place of the one with its name, or at the end. -/
def putSlot (slot : AvmSlot) : List AvmSlot → List AvmSlot
  | [] => [slot]
  | s :: ss => if s.name = slot.name then slot :: ss else s :: putSlot slot ss

/-- Adds an empty slot, or redefines the one with its name. -/
def addSlot (a : Avm) (name : String) (matcher : Matcher) (kind : SlotKind)
    (default : Option String) : Avm :=
  { a with slots := putSlot { name, matcher, kind, default } a.slots }

/-- The machine in the slot of that name. -/
def get? (a : Avm) (name : String) : Option MachineId :=
  (a.slots.find? (·.name = name)).bind (·.value)

def filledCount (a : Avm) : Nat :=
  a.slots.countP (·.isFilled)

/-- Some empty slot would take the machine. -/
def accepts (a : Avm) (g : Graph) (id : MachineId) : Bool :=
  a.slots.any (·.takes g id)

/-- Offers the machine to every slot, and tells how many took it. -/
def fill (a : Avm) (g : Graph) (id : MachineId) : Nat × Avm :=
  (a.slots.countP (·.takes g id), { a with slots := a.slots.map (·.offer g id) })

def isFilled (a : Avm) (name : String) : Bool :=
  a.slots.any fun s => s.name == name && s.isFilled

/-- The formula holds or, without one, every slot meets the rule of its kind. -/
def isSatisfied (a : Avm) : Bool :=
  match a.formula with
  | some f => f.eval a.isFilled
  | none => a.slots.all (·.isSatisfied)

/-- The texts of the slots by name; negative slots and those without a text are left out. -/
def toTable (a : Avm) (g : Graph) : Table String :=
  .ofList ((a.slots.filter (·.kind ≠ .negative)).filterMap fun s => (s.text? g).map (s.name, ·))

def clear (a : Avm) : Avm :=
  { a with slots := a.slots.map fun s => { s with value := none } }

end Avm

end MeaningGraph
