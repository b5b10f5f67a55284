/-
# A name draws one instance at most

Expanding and activating register a machine only under a name that no active machine has, and that name is the name
of a machine which was live before:

    expand      a copy of a child of the definition, or a machine of that name that was there already
    activate    an instance of a definition, which is live and has the name it is filed under

So of all they do (`Draw`), the only step that lengthens the order takes a name out of a finite set: the names of
live machines without an active instance (`inactiveNames`).  No step adds to that set, so the order and the set
together become no larger (`Draws.drawable_le`), and no name that has an instance ever gets a second one
(`Draws.registersOnce`).
-/
import Mathlib.Data.Finset.Card
import MeaningGraph.Proofs.Lexicon.Changes
import MeaningGraph.Proofs.Lexicon.Growth

namespace MeaningGraph

open Outcome
open Relation (ReflTransGen)

namespace Lexicon

variable {α β : Type} {l l' l'' : Lexicon} {id definition target : MachineId} {name : String} {p : Nat}

/-! ## Names without an instance -/

def liveNames (l : Lexicon) : Finset String :=
  (l.graph.handles.filterMap l.graph.name?).toFinset

/-- The names of live machines that have no active instance. -/
def inactiveNames (l : Lexicon) : Finset String :=
  l.liveNames.filter fun name => l.isNameActive name = false

theorem mem_liveNames : name ∈ l.liveNames ↔ ∃ id, l.graph.name? id = some name := by
  rw [liveNames, List.mem_toFinset, List.mem_filterMap]
  constructor
  · rintro ⟨id, -, hname⟩
    exact ⟨id, hname⟩
  · rintro ⟨id, hname⟩
    exact ⟨id, Graph.mem_handles_iff.2 (Graph.contains_of_name? hname), hname⟩

theorem mem_inactiveNames : name ∈ l.inactiveNames ↔ name ∈ l.liveNames ∧ l.instances name = [] := by
  rw [inactiveNames, Finset.mem_filter, isNameActive_eq_false_iff, instances_eq_nil_iff]

theorem instances_register_of_nil (h : l.instances name = []) (other : String) :
    (register name id l).instances other = if other = name then [id] else l.instances other := by
  have hnew : id ∉ l.instances name := by
    rw [h]
    exact List.not_mem_nil
  rw [instances_register hnew, h, List.nil_append]

/-- What the loop can still draw in, on top of what is active. -/
def drawable (l : Lexicon) : Nat :=
  l.order.length + l.inactiveNames.card

/-! ## One step -/

/-- What expanding and activating are made of.  A machine is made under the name of a live one, and registered
under a name without instance. -/
inductive Draw (l : Lexicon) : Lexicon → Prop
  | append {p c : MachineId} {i : Nat} {g : Graph} (h : l.graph.append p c i = .ok g) :
      Draw l { l with graph := g }
  | deepCopy {root copy : MachineId} {g : Graph} (h : l.graph.deepCopy root = .ok (copy, g)) :
      Draw l { l with graph := g }
  | create {name : String} (h : name ∈ l.liveNames) (control : Option Control) :
      Draw l { l with graph := (l.graph.create name control).2 }
  | register {name : String} {id : MachineId} (h : l.graph.name? id = some name)
      (hnone : l.instances name = []) : Draw l (Lexicon.register name id l)
  | flag (name : String) (id : MachineId) (h : (l.entries name).any (·.machine = id) = true) :
      Draw l { l with active := l.active.insert name ((l.entries name).map (ActiveEntry.expand id)) }

/-- Such steps, one after the other. -/
abbrev Draws : Lexicon → Lexicon → Prop := ReflTransGen Draw

theorem Draw.gain (h : Draw l l') : Gain l l' := by
  cases h with
  | append h => exact .append h
  | deepCopy h => exact .deepCopy h
  | create h control => exact .create _ control
  | register h hnone => exact .register h
  | flag name id h => exact .flag name id h

theorem Draws.evolves (h : Draws l l') (hl : l.Sound) : Evolves l l' :=
  Changes.evolves (Gains.changes (ReflTransGen.mono (fun _ _ => Draw.gain) _ _ h)) hl

/-- A name keeps its instances, or it had none and has one. -/
def RegistersOnce (l l' : Lexicon) : Prop :=
  ∀ name, l'.instances name = l.instances name ∨ l.instances name = [] ∧ ∃ id, l'.instances name = [id]

instance : Std.Refl RegistersOnce where
  refl _ _ := .inl rfl

instance : IsTrans Lexicon RegistersOnce where
  trans := by
    intro l l' l'' h h' name
    rcases h name with hsame | ⟨hnone, id, hone⟩
    · have hnext := h' name
      rwa [hsame] at hnext
    · rcases h' name with hsame | ⟨hnil, -⟩
      · exact .inr ⟨hnone, id, hsame.trans hone⟩
      · rw [hone] at hnil
        cases hnil

theorem RegistersOnce.instances_eq_nil (h : RegistersOnce l l') (hnone : l'.instances name = []) :
    l.instances name = [] := by
  rcases h name with hsame | ⟨hnil, -⟩
  · exact hsame.symm.trans hnone
  · exact hnil

theorem Draw.registersOnce (h : Draw l l') : RegistersOnce l l' := by
  cases h with
  | append h => exact fun _ => .inl rfl
  | deepCopy h => exact fun _ => .inl rfl
  | create h control => exact fun _ => .inl rfl
  | flag name id h => exact fun other => .inl (instances_flag name id l other)
  | @register name id h hnone =>
    intro other
    rw [instances_register_of_nil hnone]
    split
    · rename_i heq
      exact .inr ⟨heq ▸ hnone, id, rfl⟩
    · exact .inl rfl

theorem Draw.liveNames_subset (h : Draw l l') (hl : l.Sound) : l'.liveNames ⊆ l.liveNames := by
  intro other hother
  obtain ⟨id, hid⟩ := mem_liveNames.1 hother
  cases h with
  | append h => exact mem_liveNames.2 ⟨id, Graph.name?_append h id ▸ hid⟩
  | register h => exact mem_liveNames.2 ⟨id, graph_register .. ▸ hid⟩
  | flag name id' h => exact mem_liveNames.2 ⟨id, hid⟩
  | deepCopy h =>
    obtain ⟨m, hm, rfl⟩ := Option.map_eq_some_iff.1 hid
    have hlive : ∀ id m, l.graph.find? id = some m → m.name ∈ l.liveNames := fun id _ hm =>
      mem_liveNames.2 ⟨id, Graph.name?_of_find? hm⟩
    exact (hl.graph.deepCopy_cases h).forall_find? (P := fun m => m.name ∈ l.liveNames) hlive
      (fun _ hm => hm) id m hm
  | @create name h control =>
    obtain ⟨m, hm, rfl⟩ := Option.map_eq_some_iff.1 hid
    rw [hl.graph.slots.find?_create] at hm
    split at hm
    · cases hm
      exact h
    · exact mem_liveNames.2 ⟨id, Graph.name?_of_find? hm⟩

theorem Draw.inactiveNames_subset (h : Draw l l') (hl : l.Sound) : l'.inactiveNames ⊆ l.inactiveNames := by
  intro name hname
  obtain ⟨hlive, hnone⟩ := mem_inactiveNames.1 hname
  exact mem_inactiveNames.2 ⟨h.liveNames_subset hl hlive, h.registersOnce.instances_eq_nil hnone⟩

/-- A step leaves the order alone, or registers a machine under a name that had no instance and has one now. -/
theorem Draw.order_cases (h : Draw l l') :
    l'.order = l.order ∨ ∃ name id, l'.order = l.order ++ [id] ∧ name ∈ l.inactiveNames ∧ name ∉ l'.inactiveNames := by
  cases h with
  | append h => exact .inl rfl
  | deepCopy h => exact .inl rfl
  | create h control => exact .inl rfl
  | flag name id h => exact .inl rfl
  | @register name id h hnone =>
    have horder : (Lexicon.register name id l).order = l.order ++ [id] :=
      order_register_of_nil (instances_eq_nil_iff.1 hnone)
    refine .inr ⟨name, id, horder, mem_inactiveNames.2 ⟨mem_liveNames.2 ⟨id, h⟩, hnone⟩, fun hmem => ?_⟩
    have hnil := (mem_inactiveNames.1 hmem).2
    rw [instances_register_of_nil hnone, if_pos rfl] at hnil
    cases hnil

/-- What comes into the order goes out of the names without instance. -/
theorem Draw.drawable_le (h : Draw l l') (hl : l.Sound) : l'.drawable ≤ l.drawable := by
  have hsubset := h.inactiveNames_subset hl
  unfold drawable
  rcases h.order_cases with hsame | ⟨name, id, hlonger, hbefore, hafter⟩
  · rw [hsame]
    exact Nat.add_le_add_left (Finset.card_le_card hsubset) _
  · have hless : l'.inactiveNames.card < l.inactiveNames.card :=
      Finset.card_lt_card ((Finset.ssubset_iff_of_subset hsubset).2 ⟨name, hbefore, hafter⟩)
    rw [hlonger, List.length_append, List.length_singleton]
    omega

theorem Draw.statics (h : Draw l l') : l'.statics = l.statics := by
  cases h with
  | append h => rfl
  | deepCopy h => rfl
  | create h control => rfl
  | flag name id h => rfl
  | register h hnone => exact statics_register ..

/-! ## A run of steps -/

theorem Draws.registersOnce (h : Draws l l') : RegistersOnce l l' := by
  induction h with
  | refl => exact refl_of RegistersOnce l
  | tail _ h ih => exact trans_of RegistersOnce ih h.registersOnce

theorem Draws.drawable_le (h : Draws l l') (hl : l.Sound) : l'.drawable ≤ l.drawable := by
  induction h with
  | refl => exact Nat.le_refl _
  | tail hs h ih => exact Nat.le_trans (h.drawable_le (Draws.evolves hs hl).sound) ih

theorem Draws.statics (h : Draws l l') : l'.statics = l.statics := by
  induction h with
  | refl => rfl
  | tail _ h ih => exact h.statics.trans ih

/-! ## Expanding -/

/-- The operation does nothing but draw, from every lexicon in order. -/
def DrawsOnly (x : LexiconM α) : Prop :=
  ∀ l, l.Sound → Draws l (state (x l))

namespace DrawsOnly

theorem bind {x : LexiconM α} {f : α → LexiconM β} (hx : DrawsOnly x) (hf : ∀ a, DrawsOnly (f a)) :
    DrawsOnly (x >>= f) := by
  intro l hl
  have hfirst : Keeps Draws (fun _ _ => True) l (x l) := keeps_of_state (hx l hl) fun _ _ _ => trivial
  have hboth : Keeps Draws (fun _ _ => True) l ((x >>= f) l) :=
    hfirst.bind (trans_of Draws) fun a l' h _ => keeps_of_state (hf a l' (h.evolves hl).sound) fun _ _ _ => trivial
  exact hboth.state

theorem of_within {x : LexiconM α} (h : Within Draws x) : DrawsOnly x :=
  fun l _ => h l

theorem append (p c : MachineId) (i : Nat) : DrawsOnly (changeGraph (·.append p c i)) :=
  of_within (within_changeGraph fun _ _ h => .single (.append h))

theorem deepCopy (root : MachineId) : DrawsOnly (grow (·.deepCopy root)) :=
  of_within (within_grow fun _ _ _ h => .single (.deepCopy h))

theorem setExpanded (id : MachineId) : DrawsOnly (setExpanded id) :=
  of_within (within_setExpanded id fun _ name h => .single (.flag name id h))

theorem stepwise : Stepwise fun _ x => DrawsOnly x :=
  ⟨fun a => of_within (.pure a), bind, fun f => of_within (within_ask f), of_within .get,
    fun e => of_within (within_throw e)⟩

end DrawsOnly

theorem draws_linkTarget (hl : l.Sound) (hname : l.graph.name? target = some name)
    (hnone : l.instances name = []) : Draws l (state (linkTarget id p target l)) := by
  have hregister : Draw l (register name target l) := .register hname hnone
  have hlink : DrawsOnly (changeGraph (·.append id target p) >>= fun _ => pure (some target)) :=
    (DrawsOnly.append id target p).bind fun _ => .of_within (.pure _)
  rw [linkTarget, bind_eq_of_ok (addActive_one hname)]
  exact .head hregister (hlink _ (hregister.gain.evolves hl).sound)

namespace DrawsOnly

theorem represent (id : MachineId) (p : Nat) (source : MachineId) : DrawsOnly (represent id p source) := by
  intro l hl
  rw [represent_eq]
  cases hname : l.graph.name source with
  | error e =>
    rw [ask_bind_error hname]
    exact .refl
  | ok name =>
    rw [ask_bind hname, get_bind]
    cases hfirst : l.firstInstance? name with
    | some target => exact (append id target p).bind (fun _ => of_within (.pure none)) l hl
    | none =>
      -- the target has the name, which has no instance
      have hchoose : Keeps Draws (fun target l₁ => l₁.graph.name? target = some name ∧ l₁.instances name = []) l
          (Lexicon.chooseTarget id p source name l) := by
        refine keeps_of_state (stepwise.chooseTarget deepCopy id p source name l hl) fun target l₁ hok => ?_
        obtain ⟨htarget, -, hactive⟩ := chooseTarget_ok hl (Graph.name?_of_name hname) hok
        have hnone := (entries_congr hactive name).trans (entries_eq_nil_of_firstInstance? hfirst)
        exact ⟨htarget, instances_eq_nil_iff.2 hnone⟩
      have hlinked : Keeps Draws (fun _ _ => True) l
          ((Lexicon.chooseTarget id p source name >>= linkTarget id p) l) :=
        hchoose.bind (trans_of Draws) fun target l₁ h₁ htarget =>
          keeps_of_state (draws_linkTarget (h₁.evolves hl).sound htarget.1 htarget.2) fun _ _ _ => trivial
      exact hlinked.state

theorem expand (id : MachineId) : DrawsOnly (expand id) :=
  stepwise.expand represent setExpanded id

end DrawsOnly

/-! ## Definitions under their names -/

/-- The static table is in order, and a definition that is live has the name it is filed under. -/
structure Keyed (l : Lexicon) : Prop where
  ordered : l.statics.Ordered
  named : ∀ e ∈ l.statics.entries, ∀ name, l.graph.name? e.2 = some name → name = e.1

theorem Keyed.of_evolves (h : l.Keyed) (hl : l.Sound) (hevolves : Evolves l l')
    (hstatics : l'.statics = l.statics) : l'.Keyed := by
  refine ⟨hstatics ▸ h.ordered, fun e he name hname => ?_⟩
  rw [hstatics] at he
  exact h.named e he name (hevolves.names e.2 name (hl.known e.2 (List.mem_map_of_mem he)) hname)

theorem Change.keyed (h : Change l l') (hl : l.Sound) (hkeyed : l.Keyed) : l'.Keyed := by
  rcases h.cases_statics with hstatics | ⟨name, id, hname, rfl⟩
  · exact hkeyed.of_evolves hl (h.evolves hl) hstatics
  · refine ⟨hkeyed.ordered.insert name id, fun e he other hother => ?_⟩
    rcases Table.mem_entries_insert he with rfl | he
    · exact Option.some.inj (hother.symm.trans hname)
    · exact hkeyed.named e he other hother

theorem Keyed.retain (h : l.Keyed) (roots : List MachineId) (hstatics : l'.statics = l.statics)
    (hgraph : l'.graph = (l.graph.retain roots).2) : l'.Keyed := by
  refine ⟨hstatics ▸ h.ordered, fun e he name hname => ?_⟩
  rw [hstatics] at he
  rw [hgraph] at hname
  obtain ⟨m, hm, rfl⟩ := Option.map_eq_some_iff.1 hname
  obtain ⟨m₀, hm₀, hsame, -⟩ := Graph.find?_of_find?_retain hm
  exact hsame ▸ h.named e he m₀.name (Graph.name?_of_find? hm₀)

theorem Reachable.keyed (h : l.Reachable) : l.Keyed := by
  refine h.invariant ⟨Table.ordered_empty, fun e he => (List.not_mem_nil he).elim⟩ ?_ ?_ ?_
  · exact fun _ _ hl _ hkeyed hchange => hchange.keyed hl hkeyed
  · exact fun _ roots hkeyed => hkeyed.retain roots rfl rfl
  · exact fun _ hkeyed => hkeyed.retain _ rfl rfl

/-! ## Activating -/

/-- The lexicon with an instance of the name: a new machine of the name, registered under it. -/
def instantiated (l : Lexicon) (name : String) (control : Option Control) : Lexicon :=
  register name (l.graph.create name control).1 { l with graph := (l.graph.create name control).2 }

theorem instantiate_eq (hl : l.Sound) (name : String) (control : Option Control) :
    instantiate name control l = .ok (some (l.graph.create name control).1) (l.instantiated name control) := by
  have hcreate : create name control l =
      .ok (l.graph.create name control).1 { l with graph := (l.graph.create name control).2 } := rfl
  have hname := hl.graph.slots.name?_create name control
  rw [instantiate, bind_eq_of_ok hcreate, bind_eq_of_ok (addActive_one hname)]
  rfl

/-- The definition may be promoted under the name: the name has no instance, and it is that of the definition for
as long as the definition is live. -/
structure Promotable (l : Lexicon) (name : String) (definition : MachineId) : Prop where
  unused : l.instances name = []
  known : l.graph.Known definition
  named : ∀ other, l.graph.name? definition = some other → other = name

theorem Promotable.of_evolves (h : l.Promotable name definition) (hevolves : Evolves l l')
    (hinstances : l'.instances name = l.instances name) : l'.Promotable name definition where
  unused := hinstances.trans h.unused
  known := hevolves.ages.known definition h.known
  named other hother := h.named other (hevolves.names definition other h.known hother)

theorem Promotable.promote (h : l.Promotable name definition) (hl : l.Sound) :
    Draws l (state (promote name definition l)) ∧
      ∀ other, other ≠ name → (state (Lexicon.promote name definition l)).instances other = l.instances other := by
  have hnothing : Draws l l ∧ ∀ other, other ≠ name → l.instances other = l.instances other :=
    ⟨.refl, fun _ _ => rfl⟩
  rw [promote_eq]
  cases hm : l.graph.get definition with
  | error e =>
    rw [ask_bind_error hm]
    exact hnothing
  | ok m =>
    rw [ask_bind hm]
    split
    · exact hnothing
    cases hactive : l.allNamesActive (m.parts.drop 1).flatten with
    | error e =>
      rw [ask_bind_error hactive]
      exact hnothing
    | ok active =>
      rw [ask_bind hactive]
      cases active with
      | false => exact hnothing
      | true =>
        rw [if_pos rfl, instantiate_eq hl]
        -- the definition is live, so the name is that of a live machine
        have hlive : name ∈ l.liveNames := by
          have hname := Graph.name?_of_find? (Graph.get_eq_ok_iff.1 hm)
          exact h.named m.name hname ▸ mem_liveNames.2 ⟨definition, hname⟩
        have hname := hl.graph.slots.name?_create name m.control
        refine ⟨.tail (.single (.create hlive m.control)) (.register hname h.unused), fun other hne => ?_⟩
        refine (instances_register_of_nil ?_ other).trans (if_neg hne)
        exact h.unused

theorem draws_promoteAll {entries : List (String × MachineId)} (hl : l.Sound)
    (hentries : ∀ e ∈ entries, l.Promotable e.1 e.2) (hnodup : (entries.map (·.1)).Nodup) :
    Draws l (state (promoteAll entries l)) := by
  induction entries generalizing l with
  | nil => exact .refl
  | cons e entries ih =>
    obtain ⟨he, hentries⟩ := List.forall_mem_cons.1 hentries
    obtain ⟨hfresh, hnodup⟩ := List.nodup_cons.1 hnodup
    obtain ⟨hdraws, hothers⟩ := he.promote hl
    have hone : Keeps Draws (fun _ l₁ => ∀ other, other ≠ e.1 → l₁.instances other = l.instances other) l
        (promote e.1 e.2 l) := by
      refine keeps_of_state hdraws fun new l₁ hok other hne => ?_
      rw [hok] at hothers
      exact hothers other hne
    have hall : Keeps Draws (fun _ _ => True) l (promoteAll (e :: entries) l) := by
      refine hone.bind (trans_of Draws) fun new l₁ h₁ hsame => keeps_of_state ?_ fun _ _ _ => trivial
      rw [state_bind_pure]
      have hevolves := h₁.evolves hl
      refine ih hevolves.sound (fun e' he' => ?_) hnodup
      have hne : e'.1 ≠ e.1 := by
        intro heq
        exact hfresh (List.mem_map.2 ⟨e', he', heq⟩)
      exact (hentries e' he').of_evolves hevolves (hsame e'.1 hne)
    exact hall.state

/-- Activating draws: it goes through definitions of different names, none of which has an instance. -/
theorem draws_activate (hl : l.Sound) (hkeyed : l.Keyed) : Draws l (state (activate l)) := by
  have hunused : ∀ e ∈ l.statics.entries.filter (fun e => !l.isNameActive e.1), l.Promotable e.1 e.2 := by
    intro e he
    obtain ⟨he, hinactive⟩ := List.mem_filter.1 he
    have hnone : l.instances e.1 = [] :=
      instances_eq_nil_iff.2 (isNameActive_eq_false_iff.1 (by simpa using hinactive))
    exact ⟨hnone, hl.known e.2 (List.mem_map_of_mem he), hkeyed.named e he⟩
  exact draws_promoteAll hl hunused (hkeyed.ordered.nodup_names.sublist (List.filter_sublist.map _))

end Lexicon

end MeaningGraph
