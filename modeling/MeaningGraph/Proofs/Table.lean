/-
# Tables in order

The entries of a table stand in increasing order of their names (`Ordered`), which setting and dropping an entry
keep.  So a name has one entry at most, and what `find?` answers is the entry of the name, not only the first of
several.
-/
import Mathlib.Data.List.Basic
import MeaningGraph.Table

namespace MeaningGraph.Table

variable {α : Type} {a x : α} {name : String} {t : Table α}

/-! ## Entries after a change -/

theorem mem_entries_insert {e : String × α} (h : e ∈ (t.insert name a).entries) :
    e = (name, a) ∨ e ∈ t.entries := by
  have hins : ∀ entries : List (String × α), e ∈ insertEntry name a entries →
      e = (name, a) ∨ e ∈ entries := by
    intro entries he
    induction entries with
    | nil => exact .inl (List.mem_singleton.1 he)
    | cons entry rest ih =>
      obtain ⟨k, b⟩ := entry
      unfold insertEntry at he
      split at he
      · rcases List.mem_cons.1 he with rfl | he
        · exact .inl rfl
        · exact .inr (List.mem_cons_of_mem _ he)
      · split at he
        · rcases List.mem_cons.1 he with rfl | he
          · exact .inl rfl
          · exact .inr he
        · rcases List.mem_cons.1 he with rfl | he
          · exact .inr List.mem_cons_self
          · exact (ih he).imp id (List.mem_cons_of_mem _)
  exact hins t.entries h

theorem mem_values_insert (h : x ∈ (t.insert name a).values) : x = a ∨ x ∈ t.values := by
  obtain ⟨e, he, rfl⟩ := List.mem_map.1 h
  rcases mem_entries_insert he with rfl | he
  · exact .inl rfl
  · exact .inr (List.mem_map_of_mem he)

theorem mem_values_of_find? (h : t.find? name = some x) : x ∈ t.values := by
  obtain ⟨l₁, l₂, hl, -⟩ := List.lookup_eq_some_iff.1 h
  rw [values, hl]
  simp

/-! ## Names in increasing order -/

/-- The names stand in increasing order. -/
def Ordered (t : Table α) : Prop :=
  t.names.Pairwise (· < ·)

theorem ordered_empty : Ordered (empty : Table α) :=
  List.Pairwise.nil

theorem mem_names_insertEntry {key : String} {entries : List (String × α)}
    (h : key ∈ (insertEntry name a entries).map (·.1)) : key = name ∨ key ∈ entries.map (·.1) := by
  obtain ⟨e, he, rfl⟩ := List.mem_map.1 h
  rcases mem_entries_insert (t := ⟨entries⟩) he with rfl | he
  · exact .inl rfl
  · exact .inr (List.mem_map_of_mem he)

theorem Ordered.insert (h : t.Ordered) (name : String) (a : α) : (t.insert name a).Ordered := by
  obtain ⟨entries⟩ := t
  change ((insertEntry name a entries).map (·.1)).Pairwise (· < ·)
  induction entries with
  | nil => exact List.pairwise_singleton _ name
  | cons e rest ih =>
    obtain ⟨key, b⟩ := e
    obtain ⟨hkey, hrest⟩ := List.pairwise_cons.1 h
    unfold insertEntry
    split
    · rename_i heq
      exact List.pairwise_cons.2 ⟨heq ▸ hkey, hrest⟩
    · rename_i hne
      split
      · rename_i hlt
        refine List.pairwise_cons.2 ⟨?_, h⟩
        intro other hother
        rcases List.mem_cons.1 hother with rfl | hother
        · exact hlt
        · exact String.lt_trans hlt (hkey other hother)
      · rename_i hlt
        refine List.pairwise_cons.2 ⟨?_, ih hrest⟩
        intro other hother
        rcases mem_names_insertEntry hother with rfl | hother
        · exact Std.lt_of_le_of_ne (Std.not_lt.1 hlt) (Ne.symm hne)
        · exact hkey other hother

theorem Ordered.insert_of_find? (h : t.Ordered) (hfind : t.find? name = some a) : t.insert name a = t := by
  obtain ⟨entries⟩ := t
  change Table.mk (insertEntry name a entries) = Table.mk entries
  refine congrArg Table.mk ?_
  change entries.lookup name = some a at hfind
  induction entries with
  | nil => cases hfind
  | cons e rest ih =>
    obtain ⟨key, b⟩ := e
    obtain ⟨hkey, hrest⟩ := List.pairwise_cons.1 h
    rw [List.lookup_cons] at hfind
    by_cases heq : name = key
    · subst heq
      obtain rfl : b = a := by simpa using hfind
      exact if_pos rfl
    · rw [beq_false_of_ne heq] at hfind
      -- the entry comes later, so the name is greater than the first one
      have hlt : key < name := by
        obtain ⟨before, after, rfl, -⟩ := List.lookup_eq_some_iff.1 hfind
        exact hkey name (by simp)
      rw [insertEntry, if_neg heq, if_neg (Std.not_gt_of_lt hlt), ih hrest hfind]

theorem Ordered.erase (h : t.Ordered) (name : String) : (t.erase name).Ordered :=
  List.Pairwise.sublist (List.filter_sublist.map _) h

theorem Ordered.nodup_names (h : t.Ordered) : t.names.Nodup := by
  refine h.imp ?_
  rintro name _ hlt rfl
  exact String.lt_irrefl name hlt

theorem Ordered.mem_entries_iff (h : t.Ordered) : (name, a) ∈ t.entries ↔ t.find? name = some a := by
  obtain ⟨entries⟩ := t
  change (name, a) ∈ entries ↔ entries.lookup name = some a
  have hnodup : (entries.map (·.1)).Nodup := h.nodup_names
  clear h
  induction entries with
  | nil => simp
  | cons e rest ih =>
    obtain ⟨key, b⟩ := e
    obtain ⟨hkey, hrest⟩ := List.nodup_cons.1 hnodup
    by_cases hname : name = key
    · subst hname
      have hnot : (name, a) ∉ rest := fun hmem => hkey (List.mem_map.2 ⟨_, hmem, rfl⟩)
      simp [hnot, eq_comm]
    · simp [List.lookup_cons, beq_false_of_ne hname, hname, ih hrest]

end MeaningGraph.Table
