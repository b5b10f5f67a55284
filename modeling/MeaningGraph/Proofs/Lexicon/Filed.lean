/-
# Entries under their names

A machine is registered under the name that it has, and names never change.  So the handles filed under a name
are those of machines of that name; one of them may have become stale, but it was given out once and names no
machine that is made later.

`Filed` says this of a lexicon.  It survives what the graph goes through (`Filed.evolve`), and each change of
the working set.
-/
import MeaningGraph.Lexicon.Basic
import MeaningGraph.Proofs.Graph.Links

namespace MeaningGraph

/-! ## Entries -/

namespace ActiveEntry

variable {id x : MachineId} {es : List ActiveEntry}

@[simp] theorem machine_expand (id : MachineId) (e : ActiveEntry) : (e.expand id).machine = e.machine := by
  unfold expand
  split <;> rfl

theorem mem_map_expand_iff :
    ⟨x, true⟩ ∈ es.map (expand id) ↔ ⟨x, true⟩ ∈ es ∨ x = id ∧ ∃ e ∈ es, e.machine = id := by
  constructor
  · intro h
    obtain ⟨e, he, heq⟩ := List.mem_map.1 h
    unfold expand at heq
    split at heq
    · rename_i hid
      cases heq
      exact .inr ⟨hid, e, he, hid⟩
    · exact .inl (heq ▸ he)
  · rintro (he | ⟨rfl, e, he, hid⟩)
    · refine List.mem_map.2 ⟨_, he, ?_⟩
      unfold expand
      split <;> rfl
    · refine List.mem_map.2 ⟨e, he, ?_⟩
      unfold expand
      rw [if_pos hid, ← hid]

end ActiveEntry

namespace Lexicon

variable {l l' : Lexicon} {id : MachineId} {name : String}

/-! ## Reading the entries after a change -/

theorem entries_congr (h : l'.active = l.active) (name : String) : l'.entries name = l.entries name := by
  unfold entries
  rw [h]

theorem entries_insert (l : Lexicon) (name : String) (es : List ActiveEntry) (order : List MachineId)
    (other : String) :
    Lexicon.entries { l with active := l.active.insert name es, order } other =
      if other = name then es else l.entries other := by
  unfold entries
  rw [Table.find?_insert]
  split <;> rfl

theorem entries_drop (name : String) (id : MachineId) (l : Lexicon) (other : String) :
    (drop name id l).entries other =
      if other = name then (l.entries name).filter (·.machine ≠ id) else l.entries other := by
  unfold drop
  dsimp only
  split
  · rename_i hleft
    rw [List.isEmpty_iff.1 hleft]
    unfold entries
    rw [Table.find?_erase]
    split <;> rfl
  · exact entries_insert ..

/-! ## Filed -/

/-- A handle filed under a name was given out, and its machine has that name while it is live. -/
def Filed (l : Lexicon) : Prop :=
  ∀ name, ∀ id ∈ l.instances name,
    l.graph.Known id ∧ ∀ other, l.graph.name? id = some other → other = name

theorem filed_of_active_eq_empty (h : l.active = {}) : l.Filed := by
  intro name id hid
  unfold instances entries at hid
  rw [h] at hid
  cases hid

theorem filed_empty : Filed empty :=
  filed_of_active_eq_empty rfl

theorem Filed.of_subset (h : l.Filed) (hgraph : l'.graph = l.graph)
    (hsubset : ∀ name, ∀ e ∈ l'.entries name, ∃ e₀ ∈ l.entries name, e₀.machine = e.machine) : l'.Filed := by
  intro name id hid
  obtain ⟨e, he, rfl⟩ := List.mem_map.1 hid
  obtain ⟨e₀, he₀, heq⟩ := hsubset name e he
  rw [hgraph, ← heq]
  exact h name e₀.machine (List.mem_map_of_mem he₀)

/-- The graph may go on; a handle that comes to name another machine was never given out. -/
theorem Filed.evolve (h : l.Filed) {g : Graph} (hg : Graph.Evolves l.graph g) :
    Filed { l with graph := g } := by
  intro name id hid
  obtain ⟨hknown, hname⟩ := h name id hid
  refine ⟨hg.ages.known id hknown, ?_⟩
  intro other hother
  exact hname other (hg.names id other hknown hother)

theorem Filed.register (h : l.Filed) (hname : l.graph.name? id = some name) :
    (register name id l).Filed := by
  unfold Lexicon.register
  split
  · exact h
  · intro other x hx
    unfold instances at hx
    rw [entries_insert] at hx
    split at hx
    · rename_i heq
      subst heq
      rw [List.map_append] at hx
      rcases List.mem_append.1 hx with hx | hx
      · exact h other x hx
      · obtain rfl := List.mem_singleton.1 hx
        refine ⟨.of_contains (Graph.contains_of_name? hname), ?_⟩
        intro other' hother'
        rw [show Graph.name? _ _ = _ from hname] at hother'
        exact (Option.some.inj hother').symm
    · exact h other x hx

theorem Filed.drop (h : l.Filed) (name : String) (id : MachineId) : (drop name id l).Filed := by
  refine h.of_subset rfl ?_
  intro other e he
  rw [entries_drop] at he
  split at he
  · rename_i heq
    subst heq
    exact ⟨e, List.mem_of_mem_filter he, rfl⟩
  · exact ⟨e, he, rfl⟩

theorem Filed.expand (h : l.Filed) (name : String) (id : MachineId) :
    Filed { l with active := l.active.insert name ((l.entries name).map (ActiveEntry.expand id)) } := by
  refine h.of_subset rfl ?_
  intro other e he
  rw [entries_insert] at he
  split at he
  · rename_i heq
    subst heq
    obtain ⟨e₀, he₀, rfl⟩ := List.mem_map.1 he
    exact ⟨e₀, he₀, (e₀.machine_expand id).symm⟩
  · exact ⟨e, he, rfl⟩

end Lexicon

end MeaningGraph
