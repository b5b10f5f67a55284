/-
Tables keyed by name, their entries in the order of the names by code point.
-/
namespace MeaningGraph

/-- Entries by name, in increasing order of the names. -/
structure Table (α : Type) where
  entries : List (String × α) := []
deriving Repr, DecidableEq

namespace Table

variable {α β : Type}

def empty : Table α := {}

instance : Inhabited (Table α) := ⟨empty⟩

/-- Sets the entry of a name within sorted entries. -/
def insertEntry (name : String) (a : α) : List (String × α) → List (String × α)
  | [] => [(name, a)]
  | (key, b) :: rest =>
    if name = key then (name, a) :: rest
    else if name < key then (name, a) :: (key, b) :: rest
    else (key, b) :: insertEntry name a rest

/-- Sets the entry of a name, in place of the one it had. -/
def insert (t : Table α) (name : String) (a : α) : Table α :=
  ⟨insertEntry name a t.entries⟩

def find? (t : Table α) (name : String) : Option α :=
  t.entries.lookup name

def contains (t : Table α) (name : String) : Bool :=
  (t.find? name).isSome

def erase (t : Table α) (name : String) : Table α :=
  ⟨t.entries.filter (·.1 ≠ name)⟩

def size (t : Table α) : Nat :=
  t.entries.length

/-- The entries' values, in order of their names. -/
def values (t : Table α) : List α :=
  t.entries.map (·.2)

/-- The names that have an entry, in order. -/
def names (t : Table α) : List String :=
  t.entries.map (·.1)

/-- The table of a list of entries, later ones in place of earlier ones of the same name. -/
def ofList (entries : List (String × α)) : Table α :=
  entries.foldl (fun t e => t.insert e.1 e.2) empty

theorem lookup_insertEntry (name key : String) (a : α) (entries : List (String × α)) :
    (insertEntry name a entries).lookup key
      = if key = name then some a else entries.lookup key := by
  induction entries with
  | nil =>
    by_cases h : key = name
    · simp [insertEntry, h]
    · simp [insertEntry, List.lookup_cons, h, beq_false_of_ne h]
  | cons e rest ih =>
    obtain ⟨k, b⟩ := e
    unfold insertEntry
    split
    · rename_i h
      subst h
      by_cases h : key = name
      · simp [h]
      · simp [List.lookup_cons, h, beq_false_of_ne h]
    · rename_i hne
      split
      · by_cases h : key = name
        · simp [h]
        · simp [List.lookup_cons, h, beq_false_of_ne h]
      · by_cases hk : key = k
        · subst hk
          simp [Ne.symm hne]
        · simp [List.lookup_cons, beq_false_of_ne hk, ih]

@[simp] theorem find?_insert (t : Table α) (name key : String) (a : α) :
    (t.insert name a).find? key = if key = name then some a else t.find? key :=
  lookup_insertEntry name key a t.entries

@[simp] theorem find?_erase (t : Table α) (name key : String) :
    (t.erase name).find? key = if key = name then none else t.find? key := by
  obtain ⟨entries⟩ := t
  unfold erase find?
  induction entries with
  | nil => simp
  | cons e rest ih =>
    obtain ⟨k, b⟩ := e
    by_cases hk : k = name
    · subst hk
      rw [List.filter_cons_of_neg (by simp), ih]
      split
      · rfl
      · rename_i h
        rw [List.lookup_cons, beq_false_of_ne h]
    · rw [List.filter_cons_of_pos (by simp [hk]), List.lookup_cons, List.lookup_cons, ih]
      by_cases h : key = k
      · subst h
        simp [hk]
      · simp [beq_false_of_ne h]

end Table

end MeaningGraph
