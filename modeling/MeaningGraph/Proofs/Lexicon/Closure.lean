/-
# Activation reaches one closure

A definition is enabled by a set of names when it has arguments and all of them have names in the set.  One pass
goes through the definitions whose names are not active, in alphabetical order, and an instance that it makes
counts for those that come later and not for those that came before:

    a ──▶ b ──▶ c        c active:  the first pass makes b, the second one a
    c ──▶ b ──▶ a        a active:  the first pass makes b and c

So what a single pass makes depends on the names.  What passes make until one makes nothing does not: it is the least
set of names that has the active ones and all that it enables.  Passes are put together to one long pass
(`Promoted.trans`), of which each name is enabled by the active ones and those before it.  That keeps it within every
closed set (`Promoted.subset`); and a pass that makes nothing has found nothing enabled.
-/
import Mathlib.Order.Bounds.Basic
import MeaningGraph.Proofs.Lexicon.Ready
import MeaningGraph.Proofs.Lexicon.Registers

namespace MeaningGraph.Lexicon

open List (Forall₂)
open Outcome

variable {l l₁ l₂ l' : Lexicon} {definition : MachineId} {m : Machine} {name : String} {A B : Set String}
  {names names' : List String} {new new' : List MachineId}

/-! ## What a set of names enables -/

def activeNames (l : Lexicon) : Set String :=
  {name | l.isNameActive name = true}

/-- The machines all have names in the set. -/
def NamedIn (l : Lexicon) (A : Set String) (ids : List MachineId) : Prop :=
  ∀ id ∈ ids, ∃ name ∈ A, l.graph.name? id = some name

/-- The name has a definition with arguments, and all of them have names in the set. -/
def Enabled (l : Lexicon) (A : Set String) (name : String) : Prop :=
  ∃ definition m, l.static? name = some definition ∧ l.graph.find? definition = some m ∧
    m.arguments ≠ [] ∧ l.NamedIn A m.arguments

/-- The set has all that it enables. -/
def Closed (l : Lexicon) (A : Set String) : Prop :=
  ∀ name, l.Enabled A name → name ∈ A

theorem mem_activeNames : name ∈ l.activeNames ↔ l.instances name ≠ [] := by
  change l.isNameActive name = true ↔ _
  rw [← Bool.not_eq_false, isNameActive_eq_false_iff, Ne, instances_eq_nil_iff]

theorem Enabled.mono (h : l.Enabled A name) (hAB : A ⊆ B) : l.Enabled B name := by
  obtain ⟨definition, m, hstatic, hm, hsome, hnamed⟩ := h
  refine ⟨definition, m, hstatic, hm, hsome, fun c hc => ?_⟩
  obtain ⟨other, hother, hname⟩ := hnamed c hc
  exact ⟨other, hAB hother, hname⟩

theorem enabled_iff (hstatic : l.static? name = some definition) (hm : l.graph.find? definition = some m) :
    l.Enabled A name ↔ m.arguments ≠ [] ∧ l.NamedIn A m.arguments := by
  constructor
  · rintro ⟨other, m', hother, hm', hsome, hnamed⟩
    obtain rfl := Option.some.inj (hstatic.symm.trans hother)
    obtain rfl := Option.some.inj (hm.symm.trans hm')
    exact ⟨hsome, hnamed⟩
  · rintro ⟨hsome, hnamed⟩
    exact ⟨definition, m, hstatic, hm, hsome, hnamed⟩

/-- The test for active arguments stops at the first name that is not active, and answers accordingly. -/
theorem allNamesActive_iff {ids : List MachineId} {active : Bool} (h : l.allNamesActive ids = .ok active) :
    active = true ↔ l.NamedIn l.activeNames ids := by
  induction ids with
  | nil =>
    cases h
    simp [NamedIn]
  | cons id ids ih =>
    obtain ⟨name, hname, hrest⟩ := ok_of_bind h
    have hname := Graph.name?_of_name hname
    by_cases hactive : l.isNameActive name = true
    · rw [if_pos hactive] at hrest
      have hfirst : ∃ other ∈ l.activeNames, l.graph.name? id = some other := ⟨name, hactive, hname⟩
      rw [ih hrest, NamedIn, NamedIn, List.forall_mem_cons, and_iff_right hfirst]
    · rw [if_neg hactive] at hrest
      cases hrest
      refine iff_of_false Bool.false_ne_true fun hnamed => hactive ?_
      obtain ⟨other, hother, hsame⟩ := hnamed id List.mem_cons_self
      obtain rfl := Option.some.inj (hname.symm.trans hsame)
      exact hother

/-! ## One name is promoted -/

/-- A live definition is promoted exactly when the active names enable it. -/
theorem promote_cases (hl : l.Sound) (hstatic : l.static? name = some definition)
    (hm : l.graph.find? definition = some m) :
    (l.Enabled l.activeNames name ∧ promote name definition l =
      .ok (some (l.graph.create name m.control).1) (l.instantiated name m.control)) ∨
    (¬ l.Enabled l.activeNames name ∧ promote name definition l = .ok none l) := by
  have hsteps : promote name definition l = (if m.arguments.isEmpty then pure none
      else ask (·.allNamesActive m.arguments) >>= fun active =>
        if active then instantiate name m.control else pure none : LexiconM (Option MachineId)) l := by
    rw [promote_eq, ask_bind (Graph.get_of_find? hm)]
    rfl
  rw [enabled_iff hstatic hm, hsteps]
  split
  · rename_i hempty
    exact .inr ⟨fun h => h.1 (List.isEmpty_iff.1 hempty), rfl⟩
  · rename_i hsome
    obtain ⟨active, hactive⟩ := exists_allNamesActive fun c hc => hl.graph.contains_argument hm hc
    have hnamed := allNamesActive_iff hactive
    rw [ask_bind hactive]
    cases active with
    | true => exact .inl ⟨⟨mt List.isEmpty_iff.2 hsome, hnamed.1 rfl⟩, instantiate_eq hl name m.control⟩
    | false => exact .inr ⟨fun h => Bool.false_ne_true (hnamed.2 h.2), rfl⟩

/-! ## A run of promotions -/

/-- The names are promoted one after the other, each enabled by those that were active and those before it.  The
answer has a machine for each of them, which is new, has no children, and has the control of the definition.  The
others are as they were. -/
structure Promoted (l l' : Lexicon) (names : List String) (new : List MachineId) : Prop where
  kept : ∀ id m, l.graph.find? id = some m → l'.graph.find? id = some m
  only : ∀ id, l'.graph.contains id = true → l.graph.contains id = true ∨ id ∈ new
  statics : l'.statics = l.statics
  registers : Registers l l' new
  made : Forall₂ (fun name id => ¬ l.graph.Known id ∧ ∃ definition m, l.static? name = some definition ∧
    l.graph.find? definition = some m ∧ l'.graph.find? id = some (Graph.bare name m.control)) names new
  inOrder : ∀ before name after, names = before ++ name :: after →
    l.Enabled (l.activeNames ∪ {n | n ∈ before}) name

theorem Promoted.refl (l : Lexicon) : Promoted l l [] [] where
  kept _ _ hm := hm
  only _ hlive := .inl hlive
  statics := rfl
  registers := .nil (fun _ => rfl) rfl
  made := .nil
  inOrder before name after h := by simp at h

theorem Promoted.one (hl : l.Sound) (hstatic : l.static? name = some definition)
    (hm : l.graph.find? definition = some m) (hunused : l.instances name = [])
    (henabled : l.Enabled l.activeNames name) :
    Promoted l (l.instantiated name m.control) [name] [(l.graph.create name m.control).1] := by
  have hslots := hl.graph.slots
  have hgraph : (l.instantiated name m.control).graph = (l.graph.create name m.control).2 := graph_register ..
  refine ⟨fun id own hown => ?_, fun id hid => ?_, statics_register .., ?_, ?_, ?_⟩
  · rw [hgraph, hslots.find?_create_of_contains name m.control (Graph.contains_of_find? hown), hown]
  · rw [hgraph, hslots.contains_create] at hid
    exact hid.symm.imp_right List.mem_singleton.2
  · let created : Lexicon := { l with graph := (l.graph.create name m.control).2 }
    have hcreated : Registers l created [] := .nil (fun _ => rfl) rfl
    have hname : created.graph.name? (l.graph.create name m.control).1 = some name :=
      hslots.name?_create name m.control
    exact hcreated.trans (.one hname hunused) fun r other hr => (graph_register ..).symm ▸ hr
  · refine .cons ⟨hslots.not_known_create name m.control, definition, m, hstatic, hm, ?_⟩ .nil
    rw [hgraph]
    exact hslots.find?_create_self name m.control
  · intro before other after h
    obtain ⟨rfl, hrest⟩ | ⟨_, rfl, hrest⟩ := List.cons_eq_append_iff.1 h
    · obtain ⟨rfl, -⟩ := List.cons.inj hrest
      exact henabled.mono Set.subset_union_left
    · simp at hrest

namespace Promoted

theorem map_name? (h : Promoted l l' names new) : new.map l'.graph.name? = names.map some := by
  have hnames : Forall₂ (fun name id => some name = l'.graph.name? id) names new :=
    h.made.imp fun name id ⟨_, _, _, _, _, hid⟩ => (Graph.name?_of_find? hid).symm
  have hmaps : Forall₂ (· = ·) (names.map some) (new.map l'.graph.name?) :=
    List.forall₂_map_left_iff.2 (List.forall₂_map_right_iff.2 hnames)
  rw [List.forall₂_eq_eq_eq] at hmaps
  exact hmaps.symm

theorem nodup (h : Promoted l l' names new) : names.Nodup := by
  have hapart := h.registers.apart
  rw [h.map_name?] at hapart
  exact hapart.of_map _

theorem not_active (h : Promoted l l' names new) (hname : name ∈ names) : name ∉ l.activeNames := by
  have hmem : some name ∈ new.map l'.graph.name? := h.map_name? ▸ List.mem_map_of_mem hname
  obtain ⟨id, hid, hsame⟩ := List.mem_map.1 hmem
  rw [mem_activeNames, not_not]
  exact (h.registers.instances_of_mem hid hsame).1

theorem activeNames_eq (h : Promoted l l' names new) : l'.activeNames = l.activeNames ∪ {n | n ∈ names} := by
  ext name
  have hmem : name ∈ names ↔ ∃ id ∈ new, l'.graph.name? id = some name := by
    have hmap : some name ∈ new.map l'.graph.name? ↔ some name ∈ names.map some := by rw [h.map_name?]
    simpa using hmap.symm
  simp only [Set.mem_union, mem_activeNames, Set.mem_ofPred_eq, hmem, h.registers.instances name]
  simp [List.append_eq_nil_iff, List.filter_eq_nil_iff, imp_iff_not_or]

theorem name? (h : Promoted l l' names new) {id : MachineId} (hname : l.graph.name? id = some name) :
    l'.graph.name? id = some name := by
  obtain ⟨m, hm, rfl⟩ := Option.map_eq_some_iff.1 hname
  exact Graph.name?_of_find? (h.kept id m hm)

theorem static?_eq (h : Promoted l l' names new) (name : String) : l'.static? name = l.static? name := by
  rw [static?, static?, h.statics]

theorem instances_eq_nil (h : Promoted l l' names new) (hnone : l.instances name = []) (hname : name ∉ names) :
    l'.instances name = [] := by
  by_contra hsome
  rw [← Ne, ← mem_activeNames, h.activeNames_eq] at hsome
  rcases hsome with hactive | hmem
  · exact mem_activeNames.1 hactive hnone
  · exact hname hmem

theorem live (h : Promoted l l' names new) (hlive : ∀ id ∈ l.statics.values, l.graph.contains id = true) :
    ∀ id ∈ l'.statics.values, l'.graph.contains id = true := by
  intro id hid
  obtain ⟨m, hm⟩ := Graph.contains_iff.1 (hlive id (h.statics ▸ hid))
  exact Graph.contains_of_find? (h.kept id m hm)

/-- What a set enables does not change: live definitions and their arguments are left alone. -/
theorem enabled_iff (h : Promoted l l' names new) (hl : l.Sound)
    (hlive : ∀ id ∈ l.statics.values, l.graph.contains id = true) : l'.Enabled A name ↔ l.Enabled A name := by
  constructor
  · rintro ⟨definition, m', hdefinition, hm', hsome, hnamed⟩
    rw [h.static?_eq] at hdefinition
    obtain ⟨m, hm⟩ := Graph.contains_iff.1 (hlive definition (Table.mem_values_of_find? hdefinition))
    obtain rfl : m = m' := Option.some.inj ((h.kept definition m hm).symm.trans hm')
    refine ⟨definition, m, hdefinition, hm, hsome, fun c hc => ?_⟩
    obtain ⟨other, hother, hname'⟩ := hnamed c hc
    obtain ⟨own, hown⟩ := Graph.contains_iff.1 (hl.graph.contains_argument hm hc)
    have hname := Graph.name?_of_find? hown
    obtain rfl := Option.some.inj ((h.name? hname).symm.trans hname')
    exact ⟨own.name, hother, hname⟩
  · rintro ⟨definition, m, hdefinition, hm, hsome, hnamed⟩
    refine ⟨definition, m, (h.static?_eq name).trans hdefinition, h.kept definition m hm, hsome, fun c hc => ?_⟩
    obtain ⟨other, hother, hname⟩ := hnamed c hc
    exact ⟨other, hother, h.name? hname⟩

theorem trans (h : Promoted l l₁ names new) (h' : Promoted l₁ l₂ names' new') (hl : l.Sound)
    (hlive : ∀ id ∈ l.statics.values, l.graph.contains id = true) (hevolves : Evolves l l₁) :
    Promoted l l₂ (names ++ names') (new ++ new') where
  kept id m hm := h'.kept id m (h.kept id m hm)
  only id hid := by
    rcases h'.only id hid with hlive | hid
    · exact (h.only id hlive).imp_right (List.mem_append_left new')
    · exact .inr (List.mem_append_right new hid)
  statics := h'.statics.trans h.statics
  registers := h.registers.trans h'.registers fun _ _ => h'.name?
  made := by
    refine List.rel_append (R := _) ?_ ?_
    · exact h.made.imp fun name id ⟨hfresh, definition, m, hstatic, hm, hid⟩ =>
        ⟨hfresh, definition, m, hstatic, hm, h'.kept id _ hid⟩
    · refine h'.made.imp fun name id ⟨hfresh, definition, m, hstatic, hm, hid⟩ => ?_
      rw [h.static?_eq] at hstatic
      obtain ⟨m₀, hm₀⟩ := Graph.contains_iff.1 (hlive definition (Table.mem_values_of_find? hstatic))
      obtain rfl : m₀ = m := Option.some.inj ((h.kept definition m₀ hm₀).symm.trans hm)
      exact ⟨mt (hevolves.ages.known id) hfresh, definition, m₀, hstatic, hm₀, hid⟩
  inOrder before name after heq := by
    have hlater : ∀ before name after, names' = before ++ name :: after →
        l.Enabled (l.activeNames ∪ {n | n ∈ names ++ before}) name := by
      intro before name after heq
      have henabled := h'.inOrder before name after heq
      rw [h.enabled_iff hl hlive, h.activeNames_eq] at henabled
      exact henabled.mono fun n hn => by simpa [or_assoc] using hn
    -- the name is in the second part, or comes first in it, or is in the first part
    obtain ⟨mid, rfl, hrest⟩ | ⟨mid, hfirst, hrest⟩ := List.append_eq_append_iff.1 heq
    · exact hlater mid name after hrest
    · cases mid with
      | nil =>
        rw [List.append_nil] at hfirst
        subst hfirst
        simpa using hlater [] name after hrest.symm
      | cons first mid =>
        obtain ⟨rfl, rfl⟩ := List.cons.inj hrest
        exact h.inOrder before name mid hfirst

/-- What is promoted lies in every closed set that has the active names. -/
theorem subset (h : Promoted l l' names new) (hactive : l.activeNames ⊆ A) (hclosed : l.Closed A) :
    ∀ n ∈ names, n ∈ A := by
  have hbefore : ∀ before after, names = before ++ after → ∀ n ∈ before, n ∈ A := by
    intro before
    induction before using List.reverseRecOn with
    | nil => exact fun _ _ n hn => (List.not_mem_nil hn).elim
    | append_singleton before name ih =>
      intro after heq
      rw [List.append_assoc] at heq
      have hearlier := ih _ heq
      have henabled := (h.inOrder before name after heq).mono (Set.union_subset hactive hearlier)
      exact List.forall_mem_append.2 ⟨hearlier, List.forall_mem_singleton.2 (hclosed name henabled)⟩
  exact hbefore names [] (List.append_nil names).symm

end Promoted

/-! ## One pass -/

/-- Going through definitions of different names without instance promotes all that the active names enable. -/
theorem exists_promoteAll {entries : List (String × MachineId)} (hl : l.Sound)
    (hlive : ∀ id ∈ l.statics.values, l.graph.contains id = true)
    (hstatic : ∀ e ∈ entries, l.static? e.1 = some e.2) (hunused : ∀ e ∈ entries, l.instances e.1 = [])
    (hnodup : (entries.map (·.1)).Nodup) :
    ∃ new l' names, promoteAll entries l = .ok new l' ∧ Promoted l l' names new ∧
      (∀ name ∈ names, name ∈ entries.map (·.1)) ∧
      ∀ e ∈ entries, l.Enabled l.activeNames e.1 → e.1 ∈ names := by
  induction entries generalizing l with
  | nil => exact ⟨[], l, [], rfl, .refl l, fun _ h => h, fun _ he => (List.not_mem_nil he).elim⟩
  | cons e entries ih =>
    obtain ⟨name, definition⟩ := e
    obtain ⟨hstatic, hstatics⟩ := List.forall_mem_cons.1 hstatic
    obtain ⟨hnone, hnones⟩ := List.forall_mem_cons.1 hunused
    obtain ⟨hfresh, hnodup⟩ := List.nodup_cons.1 hnodup
    obtain ⟨m, hm⟩ := Graph.contains_iff.1 (hlive definition (Table.mem_values_of_find? hstatic))
    rcases promote_cases hl hstatic hm with ⟨henabled, hpromote⟩ | ⟨hdisabled, hpromote⟩
    · have hone : Promoted l (l.instantiated name m.control) [name] _ := .one hl hstatic hm hnone henabled
      have hgains : Gains l (l.instantiated name m.control) := (gains_promote name definition).of_ok hpromote
      have hevolves := hgains.changes.evolves hl
      have hstatics' : ∀ e ∈ entries, (l.instantiated name m.control).static? e.1 = some e.2 := fun e he =>
        (hone.static?_eq e.1).trans (hstatics e he)
      have hnones' : ∀ e ∈ entries, (l.instantiated name m.control).instances e.1 = [] := fun e he =>
        hone.instances_eq_nil (hnones e he) fun hsame =>
          hfresh (List.mem_map.2 ⟨e, he, List.mem_singleton.1 hsame⟩)
      obtain ⟨new, l', names, hok, hmore, hfrom, hall⟩ :=
        ih hevolves.sound (hone.live hlive) hstatics' hnones' hnodup
      refine ⟨_, l', name :: names, ?_, hone.trans hmore hl hlive hevolves, ?_, ?_⟩
      · rw [promoteAll, bind_eq_of_ok hpromote, bind_eq_of_ok hok]
        rfl
      · exact fun other hother => List.mem_cons.2 ((List.mem_cons.1 hother).imp_right (hfrom other))
      · refine List.forall_mem_cons.2 ⟨fun _ => List.mem_cons_self, fun e he hreached => ?_⟩
        refine List.mem_cons_of_mem name (hall e he ?_)
        rw [hone.enabled_iff hl hlive, hone.activeNames_eq]
        exact hreached.mono Set.subset_union_left
    · obtain ⟨new, l', names, hok, hmore, hfrom, hall⟩ := ih hl hlive hstatics hnones hnodup
      refine ⟨new, l', names, ?_, hmore, ?_, ?_⟩
      · rw [promoteAll, bind_eq_of_ok hpromote, bind_eq_of_ok hok]
        rfl
      · exact fun other hother => List.mem_cons_of_mem name (hfrom other hother)
      · exact List.forall_mem_cons.2 ⟨fun henabled => (hdisabled henabled).elim, hall⟩

/-- The definitions whose names are not active. -/
def pending (l : Lexicon) : List (String × MachineId) :=
  l.statics.entries.filter fun e => !l.isNameActive e.1

theorem mem_pending {e : String × MachineId} :
    e ∈ l.pending ↔ e ∈ l.statics.entries ∧ e.1 ∉ l.activeNames := by
  rw [pending, List.mem_filter]
  refine and_congr_right fun _ => ?_
  change _ ↔ ¬ l.isNameActive e.1 = true
  simp

theorem Keyed.nodup_pending (h : l.Keyed) : (l.pending.map (·.1)).Nodup :=
  h.ordered.nodup_names.sublist (List.filter_sublist.map _)

theorem exists_activate (hl : l.Sound) (hkeyed : l.Keyed)
    (hlive : ∀ id ∈ l.statics.values, l.graph.contains id = true) :
    ∃ new l' names, activate l = .ok new l' ∧ Promoted l l' names new ∧
      (∀ name ∈ names, name ∈ l.pending.map (·.1)) ∧
      ∀ name, l.Enabled l.activeNames name → name ∉ l.activeNames → name ∈ names := by
  have hstatic : ∀ e ∈ l.pending, l.static? e.1 = some e.2 := fun e he =>
    hkeyed.ordered.mem_entries_iff.1 (mem_pending.1 he).1
  have hunused : ∀ e ∈ l.pending, l.instances e.1 = [] := fun e he =>
    not_not.1 (mt mem_activeNames.2 (mem_pending.1 he).2)
  obtain ⟨new, l', names, hok, hpromoted, hfrom, hall⟩ :=
    exists_promoteAll hl hlive hstatic hunused hkeyed.nodup_pending
  refine ⟨new, l', names, hok, hpromoted, hfrom, fun name henabled hinactive => ?_⟩
  have ⟨definition, _, hdefinition, _⟩ := henabled
  exact hall (name, definition) (mem_pending.2 ⟨hkeyed.ordered.mem_entries_iff.2 hdefinition, hinactive⟩) henabled

/-! ## Passes until nothing is promoted -/

/-- `Settles l n new l'`: activating `n` times leads from `l` to `l'`.  The last pass answers the empty list, and
it is the only one that does; the others answer the machines `new`, all taken together. -/
inductive Settles : Lexicon → Nat → List MachineId → Lexicon → Prop
  | last {l l' : Lexicon} (h : activate l = .ok [] l') : Settles l 1 [] l'
  | more {l l₁ l' : Lexicon} {n : Nat} {new rest : List MachineId} (h : activate l = .ok new l₁) (hnew : new ≠ [])
      (hrest : Settles l₁ n rest l') : Settles l (n + 1) (new ++ rest) l'

theorem Promoted.length_pending (h : Promoted l l' names new) (hkeyed' : l'.Keyed)
    (hfrom : ∀ name ∈ names, name ∈ l.pending.map (·.1)) :
    names.length + l'.pending.length ≤ l.pending.length := by
  have hactive := h.activeNames_eq
  have hnodup : (names ++ l'.pending.map (·.1)).Nodup := by
    refine List.nodup_append.2 ⟨h.nodup, hkeyed'.nodup_pending, ?_⟩
    rintro name hname _ hpending rfl
    obtain ⟨e, he, rfl⟩ := List.mem_map.1 hpending
    exact (mem_pending.1 he).2 (hactive ▸ .inr hname)
  have hsubset : names ++ l'.pending.map (·.1) ⊆ l.pending.map (·.1) := by
    refine List.append_subset.2 ⟨hfrom, List.map_subset _ fun e he => ?_⟩
    obtain ⟨hentry, hinactive⟩ := mem_pending.1 he
    exact mem_pending.2 ⟨h.statics ▸ hentry, fun hmem => hinactive (hactive ▸ .inl hmem)⟩
  have hle := (List.subperm_of_subset hnodup hsubset).length_le
  simpa using hle

/-- There are no more passes than definitions to promote, and one that finds nothing. -/
theorem exists_settles (hl : l.Sound) (hkeyed : l.Keyed)
    (hlive : ∀ id ∈ l.statics.values, l.graph.contains id = true) :
    ∃ n new l' names, Settles l n new l' ∧ n ≤ l.pending.length + 1 ∧ Promoted l l' names new ∧
      l.Closed l'.activeNames := by
  induction hk : l.pending.length using Nat.strong_induction_on generalizing l with
  | _ k ih =>
    subst hk
    obtain ⟨new, l₁, names, hok, hpromoted, hfrom, hall⟩ := exists_activate hl hkeyed hlive
    have hevolves := (gains_activate.of_ok hok).changes.evolves hl
    have hkeyed₁ := hkeyed.of_evolves hl hevolves hpromoted.statics
    have hlength := hpromoted.length_pending hkeyed₁ hfrom
    cases hnew : new with
    | nil =>
      subst hnew
      obtain rfl : names = [] := List.forall₂_nil_right_iff.1 hpromoted.made
      refine ⟨1, [], l₁, [], .last hok, by omega, hpromoted, fun name henabled => ?_⟩
      have hsame : l₁.activeNames = l.activeNames := by simpa using hpromoted.activeNames_eq
      rw [hsame] at henabled ⊢
      by_contra hinactive
      exact List.not_mem_nil (hall name henabled hinactive)
    | cons id ids =>
      have hsome : names.length = ids.length + 1 := by
        rw [hpromoted.made.length_eq, hnew, List.length_cons]
      obtain ⟨n, rest, l', names', hsettles, hle, hmore, hclosed⟩ :=
        ih l₁.pending.length (by omega) hevolves.sound hkeyed₁ (hpromoted.live hlive) rfl
      refine ⟨n + 1, new ++ rest, l', names ++ names', .more hok (by simp [hnew]) hsettles, by omega,
        hpromoted.trans hmore hl hlive hevolves, fun name henabled => ?_⟩
      exact hclosed name ((hpromoted.enabled_iff hl hlive).2 henabled)

/-- Whatever calls led to the lexicon, as long as its definitions are live: one pass promotes all names that the
active ones enable and that are not active, and no name twice or that was active.  Passes come to an end, after at
most one more than there are definitions, and the names that are active then are the least set that has those active
at first and all that it enables. -/
theorem activate_converges (h : l.Reachable) (hlive : ∀ id ∈ l.statics.values, l.graph.contains id = true) :
    (∃ new l' names, activate l = .ok new l' ∧ Promoted l l' names new ∧ names.Nodup ∧
      (∀ name ∈ names, name ∉ l.activeNames) ∧
      ∀ name, l.Enabled l.activeNames name → name ∉ l.activeNames → name ∈ names) ∧
    ∃ n new l' names, Settles l n new l' ∧ n ≤ l.statics.size + 1 ∧ Promoted l l' names new ∧ names.Nodup ∧
      IsLeast {A | l.activeNames ⊆ A ∧ l.Closed A} l'.activeNames := by
  have hsound := h.sound
  have hkeyed := h.keyed
  constructor
  · obtain ⟨new, l', names, hok, hpromoted, -, hall⟩ := exists_activate hsound hkeyed hlive
    exact ⟨new, l', names, hok, hpromoted, hpromoted.nodup, fun _ => hpromoted.not_active, hall⟩
  · obtain ⟨n, new, l', names, hsettles, hle, hpromoted, hclosed⟩ := exists_settles hsound hkeyed hlive
    have hpending : l.pending.length ≤ l.statics.size := List.length_filter_le ..
    have hactive := hpromoted.activeNames_eq
    refine ⟨n, new, l', names, hsettles, by omega, hpromoted, hpromoted.nodup, ⟨?_, hclosed⟩, ?_⟩
    · exact hactive ▸ Set.subset_union_left
    · rintro A ⟨hA, hclosedA⟩
      rw [hactive]
      exact Set.union_subset hA (hpromoted.subset hA hclosedA)

/-- To chase takes a dog, and a dog takes an owner; an owner is active. -/
def chase : Lexicon :=
  empty.replay [.create "chase" none, .create "dog" none, .create "owner" none,
    .append ⟨0, 1⟩ ⟨1, 1⟩ 1, .append ⟨1, 1⟩ ⟨2, 1⟩ 1, .addStatic [⟨0, 1⟩, ⟨1, 1⟩, ⟨2, 1⟩],
    .create "owner" none, .addActive [⟨3, 1⟩]]

/-- The first pass makes a dog, which comes too late for chasing; that is active in the end. -/
theorem activate_converges_chase :
    chase.Reachable ∧ (∀ id ∈ chase.statics.values, chase.graph.contains id = true) ∧
    (∃ l', activate chase = .ok [⟨4, 1⟩] l' ∧ l'.activeNames = chase.activeNames ∪ {n | n ∈ ["dog"]}) ∧
    ∃ n new l', Settles chase n new l' ∧ n ≤ 4 ∧ "chase" ∈ l'.activeNames := by
  have hreach : chase.Reachable := ⟨_, rfl⟩
  have hlive : ∀ id ∈ chase.statics.values, chase.graph.contains id = true := by decide
  have hdog : ∀ A : Set String, "owner" ∈ A → chase.Enabled A "dog" := fun A howner =>
    ⟨⟨1, 1⟩, _, rfl, rfl, by decide, List.forall_mem_singleton.2 ⟨"owner", howner, rfl⟩⟩
  have hchase : ∀ A : Set String, "dog" ∈ A → chase.Enabled A "chase" := fun A hdog =>
    ⟨⟨0, 1⟩, _, rfl, rfl, by decide, List.forall_mem_singleton.2 ⟨"dog", hdog, rfl⟩⟩
  have howner : "owner" ∈ chase.activeNames := by
    show chase.isNameActive "owner" = true
    decide
  obtain ⟨⟨new, l₁, names, hone, hpromoted, -, -, hall⟩, n, new', l', names', hsettles, hle, -, -, hleast⟩ :=
    activate_converges hreach hlive
  have hanswer : answer? (activate chase) = some [⟨4, 1⟩] := by decide
  rw [hone] at hanswer
  cases hanswer
  have hmem : "dog" ∈ names := hall "dog" (hdog _ howner) (by
    show ¬ chase.isNameActive "dog" = true
    decide)
  obtain ⟨only, rfl⟩ := List.length_eq_one_iff.1 hpromoted.made.length_eq
  obtain rfl := List.mem_singleton.1 hmem
  refine ⟨hreach, hlive, ⟨l₁, hone, hpromoted.activeNames_eq⟩, n, new', l', hsettles, hle, ?_⟩
  obtain ⟨⟨hactive, hclosed⟩, -⟩ := hleast
  exact hclosed "chase" (hchase _ (hclosed "dog" (hdog _ (hactive howner))))

end MeaningGraph.Lexicon
