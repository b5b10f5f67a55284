/-
# Two views of the working set

The working set is kept by name, with flags, and in order of registration.  Whatever calls are made, and whether
or not they succeed, the two views say the same:

| by name | in order |
| :-- | :-- |
| a handle is listed once at most, under the name its machine was made with | it is there once |
| the list of a name is not empty | |
| the list of a name | is part of the order, in that order |
| a live machine is flagged or not | and is among `expanded true` or `expanded false` |

Each change of the working set keeps this (`Views`): a machine that is registered comes at the end of both, under
the name that it has, and as names never change it is filed under no other; one that is dropped goes from both.
That a name is the one a machine was made with is a matter of the whole history, in which a machine is made once
(`made_unique`).

That flags are not taken back is shown in `MeaningGraph.Proofs.Lexicon.Flags`.
-/
import Mathlib.Data.List.Induction
import MeaningGraph.Proofs.Lexicon.Flags

namespace MeaningGraph.Lexicon

open Outcome (ok_of_bind)

variable {l l' : Lexicon} {id : MachineId} {name : String} {history : List Call}

/-! ## The views -/

/-- The handles that are listed by name, name by name. -/
def listed (l : Lexicon) : List MachineId :=
  l.active.values.flatten.map (·.machine)

/-- The two views fit together. -/
structure Views (l : Lexicon) : Prop where
  listed : l.Listed
  nodup : l.order.Nodup
  ordered : l.active.Ordered
  filled : ∀ e ∈ l.active.entries, e.2 ≠ []
  apart : ∀ id name name', id ∈ l.instances name → id ∈ l.instances name' → name = name'
  sublist : ∀ name, (l.instances name).Sublist l.order

theorem views_of_nil (hactive : l.active = {}) (horder : l.order = []) : l.Views := by
  have hnone : ∀ name, l.instances name = [] := by
    intro name
    rw [instances, entries, hactive]
    rfl
  refine ⟨listed_of_nil hactive horder, ?_, ?_, ?_, ?_, ?_⟩
  · rw [horder]
    exact List.nodup_nil
  · rw [hactive]
    exact Table.ordered_empty
  · intro e he
    rw [hactive] at he
    exact (List.not_mem_nil he).elim
  · intro id name name' h
    rw [hnone] at h
    exact (List.not_mem_nil h).elim
  · intro name
    rw [hnone]
    exact List.nil_sublist _

namespace Views

theorem of_eq (h : l.Views) (hactive : l'.active = l.active) (horder : l'.order = l.order) : l'.Views := by
  have hinstances : ∀ name, l'.instances name = l.instances name := by
    intro name
    rw [instances, entries_congr hactive, instances]
  refine ⟨h.listed.of_eq hactive horder, horder ▸ h.nodup, hactive ▸ h.ordered, hactive ▸ h.filled, ?_, ?_⟩
  · intro id name name'
    rw [hinstances, hinstances]
    exact h.apart id name name'
  · intro name
    rw [hinstances, horder]
    exact h.sublist name

theorem nodup_instances (h : l.Views) (name : String) : (l.instances name).Nodup :=
  (h.sublist name).nodup h.nodup

theorem register (h : l.Views) (hfiled : l.Filed) (hname : l.graph.name? id = some name) :
    (register name id l).Views := by
  by_cases hmem : id ∈ l.instances name
  · rwa [register_of_mem hmem]
  -- filed under another name the machine would have that name
  have hnew : ∀ name', id ∉ l.instances name' := by
    intro name' hid
    exact hmem ((hfiled name' id hid).2 name hname ▸ hid)
  have horder : (Lexicon.register name id l).order = l.order ++ [id] := by
    rw [register_of_not_mem hmem]
  refine ⟨h.listed.register name id, ?_, ?_, ?_, ?_, ?_⟩
  · rw [horder]
    refine List.nodup_append.2 ⟨h.nodup, List.nodup_singleton id, ?_⟩
    rintro x hx _ hid rfl
    obtain rfl := List.mem_singleton.1 hid
    obtain ⟨name', hx⟩ := (h.listed x).1 hx
    exact hnew name' hx
  · rw [register_of_not_mem hmem]
    exact h.ordered.insert _ _
  · intro e he
    rw [register_of_not_mem hmem] at he
    rcases Table.mem_entries_insert he with rfl | he
    · simp
    · exact h.filled e he
  · intro x name₁ name₂ h₁ h₂
    rw [instances_register hmem] at h₁ h₂
    have hcases : ∀ name', x ∈ (if name' = name then l.instances name ++ [id] else l.instances name') →
        x ∈ l.instances name' ∨ name' = name ∧ x = id := by
      intro name' hx
      split at hx
      · rename_i heq
        subst heq
        simpa using hx
      · exact .inl hx
    rcases hcases name₁ h₁ with hold₁ | ⟨rfl, rfl⟩
    · rcases hcases name₂ h₂ with hold₂ | ⟨rfl, rfl⟩
      · exact h.apart x name₁ name₂ hold₁ hold₂
      · exact absurd hold₁ (hnew name₁)
    · rcases hcases name₂ h₂ with hold₂ | ⟨rfl, -⟩
      · exact absurd hold₂ (hnew name₂)
      · rfl
  · intro name'
    rw [instances_register hmem, horder]
    split
    · exact (h.sublist name).append (List.Sublist.refl _)
    · exact (h.sublist name').trans (List.sublist_append_left _ _)

theorem drop (h : l.Views) (hfiled : l.Filed) (hname : l.graph.name? id = some name) :
    (drop name id l).Views := by
  have hsubset : ∀ name', ∀ x ∈ (Lexicon.drop name id l).instances name', x ∈ l.instances name' := by
    intro name' x hx
    rw [instances_drop] at hx
    split at hx
    · rename_i heq
      exact heq ▸ List.mem_of_mem_filter hx
    · exact hx
  refine ⟨h.listed.drop hfiled hname, h.nodup.filter _, ?_, ?_, ?_, ?_⟩
  · unfold Lexicon.drop
    dsimp only
    split
    · exact h.ordered.erase name
    · exact h.ordered.insert name _
  · intro e he
    unfold Lexicon.drop at he
    dsimp only at he
    split at he
    · exact h.filled e (List.mem_of_mem_filter he)
    · rename_i hleft
      rcases Table.mem_entries_insert he with rfl | he
      · exact mt List.isEmpty_iff.2 hleft
      · exact h.filled e he
  · intro x name₁ name₂ h₁ h₂
    exact h.apart x name₁ name₂ (hsubset name₁ x h₁) (hsubset name₂ x h₂)
  · intro name'
    have hpart := (h.sublist name').filter (· ≠ id)
    rw [instances_drop]
    split
    · rename_i heq
      exact heq ▸ hpart
    · rename_i hne
      -- the machine is not filed under another name
      have hself : (l.instances name').filter (· ≠ id) = l.instances name' := by
        refine List.filter_eq_self.2 fun x hx => decide_eq_true ?_
        rintro rfl
        exact hne ((hfiled name' x hx).2 name hname).symm
      rwa [hself] at hpart

theorem flag (h : l.Views) (hmem : (l.entries name).any (·.machine = id) = true) :
    Views { l with active := l.active.insert name ((l.entries name).map (ActiveEntry.expand id)) } := by
  refine ⟨h.listed.flag name id, h.nodup, h.ordered.insert name _, ?_, ?_, ?_⟩
  · intro e he
    rcases Table.mem_entries_insert he with rfl | he
    · intro hnil
      rw [List.map_eq_nil_iff.1 hnil] at hmem
      cases hmem
    · exact h.filled e he
  · intro x name₁ name₂
    simp only [instances_flag]
    exact h.apart x name₁ name₂
  · intro name'
    rw [instances_flag]
    exact h.sublist name'

end Views

theorem Change.views (h : Change l l') (hfiled : l.Filed) (hl : l.Views) : l'.Views := by
  rcases h.cases_active with ⟨hactive, horder⟩ | ⟨name, id, hname, rfl⟩ | ⟨name, id, hmem, rfl⟩ | ⟨name, id, hname, rfl⟩
  · exact hl.of_eq hactive horder
  · exact hl.register hfiled hname
  · exact hl.flag hmem
  · exact hl.drop hfiled hname

theorem Reachable.views (h : l.Reachable) : l.Views :=
  h.invariant (views_of_nil rfl rfl) (fun _ _ _ hfiled hl hchange => hchange.views hfiled hl)
    (fun _ _ hl => hl.of_eq rfl rfl) fun _ _ => views_of_nil rfl rfl

/-! ## What is listed -/

namespace Views

theorem map_machine_of_mem (h : l.Views) {e : String × List ActiveEntry} (he : e ∈ l.active.entries) :
    e.2.map (·.machine) = l.instances e.1 := by
  rw [instances, entries, h.ordered.mem_entries_iff.1 he]
  rfl

theorem mem_listed (h : l.Views) : id ∈ l.listed ↔ id ∈ l.order := by
  rw [h.listed id, Lexicon.listed, List.map_flatten]
  simp only [Table.values, List.map_map, List.mem_flatten, List.mem_map]
  constructor
  · rintro ⟨_, ⟨e, he, rfl⟩, hid⟩
    refine ⟨e.1, ?_⟩
    rw [← h.map_machine_of_mem he]
    exact hid
  · rintro ⟨name, hid⟩
    cases hfind : l.active.find? name with
    | none =>
      rw [instances, entries, hfind] at hid
      exact (List.not_mem_nil hid).elim
    | some es =>
      have he := h.ordered.mem_entries_iff.2 hfind
      rw [← h.map_machine_of_mem he] at hid
      exact ⟨_, ⟨_, he, rfl⟩, hid⟩

theorem nodup_listed (h : l.Views) : l.listed.Nodup := by
  have hflat : l.listed = l.active.entries.flatMap fun e => e.2.map (·.machine) := by
    rw [Lexicon.listed, List.map_flatten, Table.values, List.map_map, List.flatMap]
    rfl
  rw [hflat]
  refine List.nodup_flatMap.2 ⟨?_, ?_⟩
  · intro e he
    rw [h.map_machine_of_mem he]
    exact h.nodup_instances e.1
  · refine (List.pairwise_map.1 h.ordered.nodup_names).imp_of_mem ?_
    intro e e' he he' hne x hx hx'
    exact hne (h.apart x e.1 e'.1 (h.map_machine_of_mem he ▸ hx) (h.map_machine_of_mem he' ▸ hx'))

/-- Name by name and in order, the same handles are listed. -/
theorem listed_perm (h : l.Views) : l.listed.Perm l.order :=
  (List.perm_ext_iff_of_nodup h.nodup_listed h.nodup).2 fun _ => h.mem_listed

theorem expanded_perm (h : l.Views) (hfiled : l.Filed) :
    (l.expanded true ++ l.expanded false).Perm (l.order.filter l.graph.contains) := by
  have hsplit : ∀ flag, l.expanded flag =
      (l.order.filter l.graph.contains).filter fun id => (l.entry? id).any (·.expanded = flag) := by
    intro flag
    rw [expanded, List.filter_filter]
    refine List.filter_congr fun id _ => ?_
    cases hlive : l.graph.contains id with
    | true => rw [Bool.and_true]
    | false =>
      unfold entry?
      rw [Graph.name?, Graph.find?_eq_none_of_not_contains hlive]
      rfl
  have hother : l.expanded false = (l.order.filter l.graph.contains).filter
      fun id => !(l.entry? id).any (·.expanded = true) := by
    rw [hsplit]
    refine List.filter_congr fun id hid => ?_
    obtain ⟨hid, hlive⟩ := List.mem_filter.1 hid
    obtain ⟨e, he⟩ := Option.isSome_iff_exists.1 ((h.listed.mem_order_iff hfiled hlive).1 hid)
    rw [he, Option.any_some, Option.any_some]
    cases e.expanded <;> rfl
  rw [hother, hsplit true]
  exact List.filter_append_perm _ _

end Views

/-! ## The name a machine was made with -/

/-- Some call of the history makes a machine of the name, and its handle is this one. -/
def MadeAs (history : List Call) (id : MachineId) (name : String) : Prop :=
  ∃ n, (empty.replay (history.take n)).graph.contains id = false ∧
    (empty.replay (history.take (n + 1))).graph.name? id = some name

theorem evolves_take (history : List Call) {m n : Nat} (h : m ≤ n) :
    Evolves (empty.replay (history.take m)) (empty.replay (history.take n)) := by
  have hsplit : history.take n = history.take m ++ (history.take n).drop m := by
    conv_lhs => rw [← List.take_append_drop m (history.take n)]
    rw [List.take_take, min_eq_left h]
  rw [hsplit, replay_append]
  exact (sound_empty.evolves_replay _).sound.evolves_replay _

theorem MadeAs.concat (h : MadeAs history id name) (c : Call) : MadeAs (history ++ [c]) id name := by
  obtain ⟨n, hbefore, hafter⟩ := h
  have hn : n + 1 ≤ history.length := by
    by_contra hlong
    rw [List.take_of_length_le (by omega)] at hbefore hafter
    rw [Graph.contains_of_name? hafter] at hbefore
    cases hbefore
  refine ⟨n, ?_, ?_⟩
  · rwa [List.take_append_of_le_length (by omega)]
  · rwa [List.take_append_of_le_length hn]

theorem madeAs_of_name? (h : (empty.replay history).graph.name? id = some name) :
    MadeAs history id name := by
  induction history using List.reverseRecOn with
  | nil => simp [replay, empty, Graph.name?, Graph.find?] at h
  | append_singleton history c ih =>
    cases hbefore : (empty.replay history).graph.contains id with
    | false =>
      refine ⟨history.length, ?_, ?_⟩
      · rwa [List.take_left]
      · rwa [List.take_of_length_le (by simp)]
    | true =>
      rw [replay_append] at h
      have hsound : (empty.replay history).Sound := (sound_empty.evolves_replay _).sound
      exact (ih ((hsound.evolves_replay [c]).names id name (.of_contains hbefore) h)).concat c

/-- A handle is given out once, so it names one machine in a history, which was made with one name. -/
theorem made_unique {name' : String} (h : MadeAs history id name) (h' : MadeAs history id name') :
    name = name' := by
  have hle : ∀ {m n : Nat} {first second : String},
      (empty.replay (history.take (m + 1))).graph.name? id = some first →
      (empty.replay (history.take n)).graph.contains id = false →
      (empty.replay (history.take (n + 1))).graph.name? id = some second → n ≤ m := by
    intro m n first second hfirst hfree hsecond
    by_contra hlt
    -- the handle was given out before, so a name that it has later is the one it had
    have hknown : (empty.replay (history.take n)).graph.Known id :=
      (evolves_take history (Nat.lt_of_not_le hlt)).ages.known id
        (.of_contains (Graph.contains_of_name? hfirst))
    have hname := (evolves_take history (Nat.le_succ n)).names id second hknown hsecond
    rw [Graph.contains_of_name? hname] at hfree
    cases hfree
  obtain ⟨n, hfree, hname⟩ := h
  obtain ⟨n', hfree', hname'⟩ := h'
  obtain rfl : n = n' := Nat.le_antisymm (hle hname' hfree hname) (hle hname hfree' hname')
  exact Option.some.inj (hname.symm.trans hname')

theorem Change.filed_or_named (h : Change l l') (hid : id ∈ l'.instances name) :
    id ∈ l.instances name ∨ l'.graph.name? id = some name := by
  rcases h.cases_active with ⟨hactive, -⟩ | ⟨name', other, hname, rfl⟩ | ⟨name', other, -, rfl⟩ | ⟨name', other, -, rfl⟩
  · rw [instances, entries_congr hactive] at hid
    exact .inl hid
  · by_cases hmem : other ∈ l.instances name'
    · rw [register_of_mem hmem] at hid
      exact .inl hid
    · rw [instances_register hmem] at hid
      split at hid
      · rename_i heq
        subst heq
        rcases List.mem_append.1 hid with hid | hid
        · exact .inl hid
        · obtain rfl := List.mem_singleton.1 hid
          rw [graph_register]
          exact .inr hname
      · exact .inl hid
  · rw [instances_flag] at hid
    exact .inl hid
  · rw [instances_drop] at hid
    split at hid
    · rename_i heq
      exact .inl (heq ▸ List.mem_of_mem_filter hid)
    · exact .inl hid

theorem filed_or_named_call (c : Call) (hl : l.Sound) (hfiled : l.Filed)
    (hid : id ∈ (l.call c).instances name) :
    id ∈ l.instances name ∨ (l.call c).graph.name? id = some name := by
  by_cases hr : ∃ roots, c = .retain roots
  · obtain ⟨roots, rfl⟩ := hr
    exact .inl hid
  by_cases hc : c = .clearActive
  · subst hc
    exact (List.not_mem_nil hid).elim
  have hkeeps := (changes_call c (fun roots heq => hr ⟨roots, heq⟩) hc l).keeps
    (P := fun l' => ∀ id ∈ l'.instances name, id ∈ l.instances name ∨ l'.graph.name? id = some name)
    (fun l₁ l₂ hl₁ _ hp hchange id hid => ?_) hl hfiled fun _ hid => .inl hid
  · exact hkeeps id hid
  · rcases hchange.filed_or_named hid with hid | hname
    · refine (hp id hid).imp_right fun hname => ?_
      have hlive := Graph.contains_of_name? hname
      rw [(hchange.evolves hl₁).name?_eq hlive (hchange.contains hl₁ hlive), hname]
    · exact .inr hname

theorem madeAs_of_mem_instances (h : id ∈ (empty.replay history).instances name) :
    MadeAs history id name := by
  induction history using List.reverseRecOn with
  | nil => exact (List.not_mem_nil h).elim
  | append_singleton history c ih =>
    have hevolves := sound_empty.evolves_replay history
    rw [replay_append] at h
    rcases filed_or_named_call c hevolves.sound (hevolves.filed filed_empty) h with hid | hname
    · exact (ih hid).concat c
    · refine madeAs_of_name? ?_
      rw [replay_append]
      exact hname

/-! ## The two views agree -/

/-- As no name lists a machine twice, the entry that is read is the one that is flagged. -/
theorem Views.isExpanded_iff (h : l.Views) : l.isExpanded id = .ok true ↔ l.Flagged id := by
  constructor
  · intro hexpanded
    unfold isExpanded at hexpanded
    cases hentry : l.entry? id with
    | none =>
      rw [hentry] at hexpanded
      obtain ⟨_, -, herror⟩ := ok_of_bind hexpanded
      cases herror
    | some e =>
      rw [hentry] at hexpanded
      obtain ⟨name, hname, hfind⟩ := Option.bind_eq_some_iff.1 hentry
      have hmachine : e.machine = id := by simpa using List.find?_some hfind
      have hflag : e.expanded = true := Except.ok.inj hexpanded
      obtain rfl : e = ⟨id, true⟩ := by
        rw [← hmachine, ← hflag]
      exact ⟨name, hname, List.mem_of_find?_eq_some hfind⟩
  · rintro ⟨name, hname, he⟩
    obtain ⟨e, hfind⟩ : ∃ e, (l.entries name).find? (·.machine = id) = some e := by
      refine Option.isSome_iff_exists.1 (List.find?_isSome.2 ⟨_, he, ?_⟩)
      exact decide_eq_true rfl
    have hmachine : e.machine = id := by simpa using List.find?_some hfind
    obtain rfl : e = ⟨id, true⟩ :=
      List.inj_on_of_nodup_map (h.nodup_instances name) (List.mem_of_find?_eq_some hfind) he hmachine
    have hentry : l.entry? id = some ⟨id, true⟩ := by
      unfold entry?
      rw [hname]
      exact hfind
    rw [isExpanded, hentry]

/-- After any calls, in any order and with any arguments, successful or failing: the order has no handle twice; it
has those that are listed by name, each of which is listed once, under the name that its machine was made with; no
name has an empty list; the list of a name has the active machines of that name in order of registration; among
live machines those that were expanded and those that were not make up the order; and while a machine stays active
it does not cease to be expanded. -/
theorem views_agree (history : List Call) :
    (empty.replay history).order.Nodup ∧
    (∀ id, id ∈ (empty.replay history).order ↔
      (empty.replay history).listed.count id = 1 ∧
        ∃ name, MadeAs history id name ∧ id ∈ (empty.replay history).instances name) ∧
    (empty.replay history).listed.Perm (empty.replay history).order ∧
    (∀ e ∈ (empty.replay history).active.entries, e.2 ≠ []) ∧
    (∀ name, ((empty.replay history).instances name).Sublist (empty.replay history).order ∧
      ∀ id, id ∈ (empty.replay history).instances name ↔
        id ∈ (empty.replay history).order ∧ MadeAs history id name) ∧
    (∀ flag, ((empty.replay history).expanded flag).Sublist (empty.replay history).order) ∧
    ((empty.replay history).expanded true ++ (empty.replay history).expanded false).Perm
      ((empty.replay history).order.filter (empty.replay history).graph.contains) ∧
    ∀ id n m, n ≤ m →
      (∀ k, n ≤ k → k ≤ m → (empty.replay (history.take k)).isActive id = true) →
      (empty.replay (history.take n)).isExpanded id = .ok true →
      (empty.replay (history.take m)).isExpanded id = .ok true := by
  have hreachable : ∀ history, (empty.replay history).Reachable := fun history => ⟨history, rfl⟩
  have h : (empty.replay history).Views := (hreachable history).views
  have hmade : ∀ id, id ∈ (empty.replay history).order ↔
      ∃ name, MadeAs history id name ∧ id ∈ (empty.replay history).instances name := by
    intro id
    rw [h.listed id]
    exact ⟨fun ⟨name, hid⟩ => ⟨name, madeAs_of_mem_instances hid, hid⟩, fun ⟨name, _, hid⟩ => ⟨name, hid⟩⟩
  refine ⟨h.nodup, ?_, h.listed_perm, h.filled, ?_, fun _ => List.filter_sublist,
    h.expanded_perm (hreachable history).filed, ?_⟩
  · intro id
    constructor
    · intro hid
      exact ⟨List.count_eq_one_of_mem h.nodup_listed (h.mem_listed.2 hid), (hmade id).1 hid⟩
    · rintro ⟨-, hid⟩
      exact (hmade id).2 hid
  · intro name
    refine ⟨h.sublist name, fun id => ⟨?_, ?_⟩⟩
    · intro hid
      exact ⟨(h.sublist name).subset hid, madeAs_of_mem_instances hid⟩
    · rintro ⟨hid, hname⟩
      obtain ⟨name', hname', hmem⟩ := (hmade id).1 hid
      exact made_unique hname' hname ▸ hmem
  · intro id n m hnm hactive hexpanded
    rw [(hreachable _).views.isExpanded_iff] at hexpanded ⊢
    exact flagged_replay hnm hactive hexpanded

end MeaningGraph.Lexicon
