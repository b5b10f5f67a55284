/-
# Changes, one at a time

Whatever an operation does to a lexicon it does in small changes, and where it fails half-way the changes made
so far stand:

    Gain      a machine, a copy, a link, a control, a definition, an entry or a flag comes
    Change    a gain, or a link or an entry goes

No change frees a machine; only `retain` and `clearActive` do.  So what every change keeps is kept by every
other call, whether or not it succeeds (`changes_call`), and a property of all lexica that can be reached is
shown change by change (`Reachable.invariant`).

One such property is shown here: the working set is kept twice, by name and in order, and the two views agree
(`Listed`).
-/
import Mathlib.Logic.Relation
import MeaningGraph.Proofs.Graph.Handles
import MeaningGraph.Proofs.Lexicon.History
import MeaningGraph.Proofs.Lexicon.WorkingSet

namespace MeaningGraph

open Outcome
open Relation (ReflTransGen)

namespace Outcome

variable {ε σ α : Type} {R R' : σ → σ → Prop} {x : EStateM ε σ α}

theorem Within.mono (h : Within R x) (hR : ∀ s t, R s t → R' s t) : Within R' x :=
  fun s => hR s _ (h s)

end Outcome

namespace Lexicon

variable {l l' : Lexicon} {id : MachineId} {name : String}

/-- Something comes, and nothing goes. -/
inductive Gain (l : Lexicon) : Lexicon → Prop
  | create (name : String) (control : Option Control) :
      Gain l { l with graph := (l.graph.create name control).2 }
  | append {p c : MachineId} {i : Nat} {g : Graph} (h : l.graph.append p c i = .ok g) :
      Gain l { l with graph := g }
  | setControl {id : MachineId} {control : Option Control} {g : Graph}
      (h : l.graph.setControl id control = .ok g) : Gain l { l with graph := g }
  | deepCopy {root copy : MachineId} {g : Graph} (h : l.graph.deepCopy root = .ok (copy, g)) :
      Gain l { l with graph := g }
  | define {name : String} {id : MachineId} (h : l.graph.name? id = some name) :
      Gain l { l with statics := l.statics.insert name id }
  | register {name : String} {id : MachineId} (h : l.graph.name? id = some name) :
      Gain l (Lexicon.register name id l)
  | flag (name : String) (id : MachineId) (h : (l.entries name).any (·.machine = id) = true) :
      Gain l { l with active := l.active.insert name ((l.entries name).map (ActiveEntry.expand id)) }

/-- Something comes, or a link or an entry goes; no machine does. -/
inductive Change (l : Lexicon) : Lexicon → Prop
  | gain {l' : Lexicon} (h : Gain l l') : Change l l'
  | remove {p c : MachineId} {i : Nat} {g : Graph} (h : l.graph.remove p c i = .ok g) :
      Change l { l with graph := g }
  | removeEverywhere {p c : MachineId} {g : Graph} (h : l.graph.removeEverywhere p c = .ok g) :
      Change l { l with graph := g }
  | drop {name : String} {id : MachineId} (h : l.graph.name? id = some name) :
      Change l (Lexicon.drop name id l)

/-- Gains, one after the other. -/
abbrev Gains : Lexicon → Lexicon → Prop := ReflTransGen Gain

/-- Changes, one after the other. -/
abbrev Changes : Lexicon → Lexicon → Prop := ReflTransGen Change

theorem Gains.changes (h : Gains l l') : Changes l l' :=
  ReflTransGen.mono (fun _ _ => Change.gain) _ _ h

/-! What becomes of the working set and of the definitions.  Whatever else a step does, it does to the graph. -/

theorem Gain.cases_active (h : Gain l l') :
    (l'.active = l.active ∧ l'.order = l.order) ∨
    (∃ name id, l.graph.name? id = some name ∧ l' = Lexicon.register name id l) ∨
    ∃ name id, (l.entries name).any (·.machine = id) = true ∧
      l' = { l with active := l.active.insert name ((l.entries name).map (ActiveEntry.expand id)) } := by
  cases h with
  | create name control => exact .inl ⟨rfl, rfl⟩
  | append h => exact .inl ⟨rfl, rfl⟩
  | setControl h => exact .inl ⟨rfl, rfl⟩
  | deepCopy h => exact .inl ⟨rfl, rfl⟩
  | define h => exact .inl ⟨rfl, rfl⟩
  | @register name id h => exact .inr (.inl ⟨name, id, h, rfl⟩)
  | flag name id h => exact .inr (.inr ⟨name, id, h, rfl⟩)

theorem Change.cases_active (h : Change l l') :
    (l'.active = l.active ∧ l'.order = l.order) ∨
    (∃ name id, l.graph.name? id = some name ∧ l' = Lexicon.register name id l) ∨
    (∃ name id, (l.entries name).any (·.machine = id) = true ∧
      l' = { l with active := l.active.insert name ((l.entries name).map (ActiveEntry.expand id)) }) ∨
    ∃ name id, l.graph.name? id = some name ∧ l' = Lexicon.drop name id l := by
  cases h with
  | gain h =>
    rcases h.cases_active with hsame | hregister | hflag
    · exact .inl hsame
    · exact .inr (.inl hregister)
    · exact .inr (.inr (.inl hflag))
  | remove h => exact .inl ⟨rfl, rfl⟩
  | removeEverywhere h => exact .inl ⟨rfl, rfl⟩
  | @drop name id h => exact .inr (.inr (.inr ⟨name, id, h, rfl⟩))

theorem Change.cases_statics (h : Change l l') :
    l'.statics = l.statics ∨
      ∃ name id, l.graph.name? id = some name ∧ l' = { l with statics := l.statics.insert name id } := by
  cases h with
  | gain h =>
    cases h with
    | create name control => exact .inl rfl
    | append h => exact .inl rfl
    | setControl h => exact .inl rfl
    | deepCopy h => exact .inl rfl
    | @define name id h => exact .inr ⟨name, id, h, rfl⟩
    | register h => exact .inl (statics_register ..)
    | flag name id h => exact .inl rfl
  | remove h => exact .inl rfl
  | removeEverywhere h => exact .inl rfl
  | drop h => exact .inl rfl

/-! ## What the operations are made of -/

section Operations

variable {α : Type} {R : Lexicon → Lexicon → Prop}

theorem within_ask [Std.Refl R] (f : Lexicon → Except Error α) : Within R (ask f) := by
  intro l
  unfold ask
  cases f l with
  | error e => exact refl_of R l
  | ok a => exact refl_of R l

theorem within_throw [Std.Refl R] (e : Error) : Within R (throw e : LexiconM α) := by
  intro l
  exact refl_of R l

theorem within_changeGraph [Std.Refl R] {f : Graph → Except Error Graph}
    (hf : ∀ l g, f l.graph = .ok g → R l { l with graph := g }) : Within R (changeGraph f) := by
  intro l
  unfold changeGraph
  cases h : f l.graph with
  | error e => exact refl_of R l
  | ok g => exact hf l g h

theorem within_grow [Std.Refl R] {f : Graph → Except Error (MachineId × Graph)}
    (hf : ∀ l id g, f l.graph = .ok (id, g) → R l { l with graph := g }) : Within R (grow f) := by
  intro l
  unfold grow
  cases h : f l.graph with
  | error e => exact refl_of R l
  | ok r => exact hf l r.1 r.2 h

theorem within_ask_name [Std.Refl R] {id : MachineId} {f : String → LexiconM α}
    (hf : ∀ name l, l.graph.name? id = some name → R l (state (f name l))) :
    Within R (ask (·.graph.name id) >>= f) := by
  intro l
  cases h : l.graph.name id with
  | error e =>
    rw [ask_bind_error h]
    exact refl_of R l
  | ok name =>
    rw [ask_bind h]
    exact hf name l (Graph.name?_of_name h)

theorem within_stepwise [Std.Refl R] [IsTrans Lexicon R] : Stepwise fun _ x => Within R x :=
  ⟨.pure, .bind, within_ask, .get, within_throw⟩

theorem within_setExpanded [Std.Refl R] (id : MachineId)
    (hR : ∀ l name, (l.entries name).any (·.machine = id) = true →
      R l { l with active := l.active.insert name ((l.entries name).map (ActiveEntry.expand id)) }) :
    Within R (setExpanded id) := by
  refine within_ask_name fun name l h => ?_
  change R l (state ((if (l.entries name).any (·.machine = id) then set _ else throw _ : LexiconM Unit) l))
  split
  · rename_i hfiled
    exact hR l name hfiled
  · exact refl_of R l

end Operations

theorem gains_create (name : String) (control : Option Control) : Within Gains (create name control) :=
  fun _ => .single (.create name control)

theorem gains_append (p c : MachineId) (i : Nat) : Within Gains (changeGraph (·.append p c i)) :=
  within_changeGraph fun _ _ h => .single (.append h)

theorem gains_setControl (id : MachineId) (control : Option Control) :
    Within Gains (changeGraph (·.setControl id control)) :=
  within_changeGraph fun _ _ h => .single (.setControl h)

theorem gains_deepCopy (root : MachineId) : Within Gains (grow (·.deepCopy root)) :=
  within_grow fun _ _ _ h => .single (.deepCopy h)

theorem gains_addStatic (ids : List MachineId) : Within Gains (addStatic ids) := by
  induction ids with
  | nil => exact .pure ()
  | cons id ids ih =>
    refine within_ask_name fun name l h => ?_
    have hdefine : Gain l { l with statics := l.statics.insert name id } := .define h
    exact trans_of Gains (.single hdefine) (ih _)

theorem gains_addActive (ids : List MachineId) : Within Gains (addActive ids) := by
  induction ids with
  | nil => exact .pure ()
  | cons id ids ih =>
    refine within_ask_name fun name l h => ?_
    have hregister : Gain l (register name id l) := .register h
    exact trans_of Gains (.single hregister) (ih _)

theorem gains_setExpanded (id : MachineId) : Within Gains (setExpanded id) :=
  within_setExpanded id fun _ name h => .single (.flag name id h)

theorem gains_stepwise : Stepwise fun _ x => Within Gains x :=
  within_stepwise

theorem gains_chooseTarget (id : MachineId) (p : Nat) (source : MachineId) (name : String) :
    Within Gains (chooseTarget id p source name) :=
  gains_stepwise.chooseTarget gains_deepCopy id p source name

theorem gains_represent (id : MachineId) (p : Nat) (source : MachineId) : Within Gains (represent id p source) :=
  gains_stepwise.represent gains_deepCopy gains_addActive gains_append id p source

theorem gains_expand (id : MachineId) : Within Gains (expand id) :=
  gains_stepwise.expand gains_represent gains_setExpanded id

theorem gains_promote (name : String) (definition : MachineId) : Within Gains (promote name definition) :=
  gains_stepwise.promote gains_create gains_addActive name definition

theorem gains_activate : Within Gains activate :=
  gains_stepwise.activate gains_promote

/-- Folding takes links away one by one and draws others. -/
theorem changes_fold {keep merge : MachineId} {g : Graph} (h : l.graph.fold keep merge = .ok g) :
    Changes l { l with graph := g } := by
  have hmove : ∀ {p c p' c' : MachineId} {i j : Nat} (g g' : Graph), Changes l { l with graph := g } →
      (do let g ← g.remove p c i; g.append p' c' j) = .ok g' → Changes l { l with graph := g' } := by
    intro p c p' c' i j g g' hg hok
    obtain ⟨g₁, hremove, happend⟩ := ok_of_bind hok
    have hless : Change { l with graph := g } { l with graph := g₁ } := .remove hremove
    have hmore : Gain { l with graph := g₁ } { l with graph := g' } := .append happend
    exact (hg.tail hless).tail (.gain hmore)
  obtain ⟨-, -, h⟩ := ok_of_bind h
  obtain ⟨m, -, h⟩ := ok_of_bind h
  obtain ⟨g₁, hchildren, h⟩ := ok_of_bind h
  obtain ⟨m', -, hplaces⟩ := ok_of_bind h
  have h₁ : Changes l { l with graph := g₁ } :=
    foldlM_keeps (fun g _ g' hg hok => hmove g g' hg hok) .refl hchildren
  exact foldlM_keeps (fun g _ g' hg hok => hmove g g' hg hok) h₁ hplaces

theorem changes_unify (keep merge : MachineId) : Within Changes (unify keep merge) := by
  rw [unify_eq]
  split
  · exact .pure ()
  · refine (within_changeGraph fun _ _ h => changes_fold h).bind fun _ => ?_
    exact within_ask_name fun _ _ h => .single (.drop h)

theorem changes_stepwise : Stepwise fun _ x => Within Changes x :=
  within_stepwise

theorem changes_merge (id : MachineId) : Within Changes (merge id) :=
  changes_stepwise.merge changes_unify (fun ids => (gains_addActive ids).mono fun _ _ => Gains.changes) id

theorem changes_mergeActive (ids : List MachineId) : Within Changes (mergeActive ids) :=
  changes_stepwise.mergeActive changes_merge ids

/-- A call does nothing but change the lexicon, unless it releases machines. -/
theorem changes_call (c : Call) (hretain : ∀ roots, c ≠ .retain roots) (hclear : c ≠ .clearActive)
    (l : Lexicon) : Changes l (l.call c) := by
  cases c with
  | create name control => exact (gains_create name control l).changes
  | append p c i => exact (gains_append p c i l).changes
  | remove p c i => exact within_changeGraph (fun _ _ h => .single (.remove h)) l
  | removeEverywhere p c => exact within_changeGraph (fun _ _ h => .single (.removeEverywhere h)) l
  | setControl id control => exact (gains_setControl id control l).changes
  | deepCopy root => exact (gains_deepCopy root l).changes
  | retain roots => exact absurd rfl (hretain roots)
  | addStatic ids => exact (gains_addStatic ids l).changes
  | addActive ids => exact (gains_addActive ids l).changes
  | expand id => exact (gains_expand id l).changes
  | activate => exact (gains_activate l).changes
  | mergeActive ids => exact changes_mergeActive ids l
  | unify keep merge => exact changes_unify keep merge l
  | clearActive => exact absurd rfl hclear

/-! ## What changes keep -/

theorem Gain.evolves (h : Gain l l') (hl : l.Sound) : Evolves l l' := by
  cases h with
  | create name control => exact hl.evolves_graph (hl.graph.evolves_create name control)
  | append h => exact hl.evolves_graph (hl.graph.evolves_append h)
  | setControl h => exact hl.evolves_graph (hl.graph.evolves_setControl h)
  | deepCopy h => exact hl.evolves_graph (hl.graph.evolves_deepCopy h)
  | @define name id h =>
    refine ⟨⟨hl.graph, ?_⟩, .refl _, fun _ _ _ hname => hname, fun hfiled => hfiled⟩
    intro other hother
    rcases Table.mem_values_insert hother with rfl | hother
    · exact .of_contains (Graph.contains_of_name? h)
    · exact hl.known other hother
  | @register name id h =>
    exact hl.evolves_of_eq (graph_register name id l) (statics_register name id l) (·.register h)
  | flag name id => exact hl.evolves_of_eq rfl rfl (·.expand name id)

theorem Change.evolves (h : Change l l') (hl : l.Sound) : Evolves l l' := by
  cases h with
  | gain h => exact h.evolves hl
  | remove h => exact hl.evolves_graph (hl.graph.evolves_remove h)
  | removeEverywhere h => exact hl.evolves_graph (hl.graph.evolves_removeEverywhere h)
  | drop h => exact hl.evolves_of_eq rfl rfl (·.drop _ _)

theorem Change.contains (h : Change l l') (hl : l.Sound) (hid : l.graph.contains id = true) :
    l'.graph.contains id = true := by
  cases h with
  | gain h =>
    cases h with
    | create name control => exact (hl.graph.slots.contains_create name control).2 (.inr hid)
    | append h => exact (Graph.contains_append h).trans hid
    | setControl h => exact (Graph.contains_setControl h).trans hid
    | deepCopy h =>
      rw [Graph.contains, (hl.graph.deepCopy_cases h).find?_old hid]
      exact hid
    | define h => exact hid
    | register h => rwa [graph_register]
    | flag name id => exact hid
  | remove h => exact (Graph.contains_remove h).trans hid
  | removeEverywhere h => exact (Graph.contains_removeEverywhere h).trans hid
  | drop h => exact hid

theorem Changes.evolves (h : Changes l l') (hl : l.Sound) : Evolves l l' := by
  induction h with
  | refl => exact hl.evolves_refl
  | tail _ h ih => exact ih.trans (h.evolves ih.sound)

theorem Changes.contains (h : Changes l l') (hl : l.Sound) (hid : l.graph.contains id = true) :
    l'.graph.contains id = true := by
  induction h with
  | refl => exact hid
  | tail hs h ih => exact h.contains (Changes.evolves hs hl).sound ih

/-- What every change of a lexicon in order keeps, changes keep. -/
theorem Changes.keeps {P : Lexicon → Prop}
    (hP : ∀ l l', l.Sound → l.Filed → P l → Change l l' → P l') (h : Changes l l') (hl : l.Sound)
    (hfiled : l.Filed) (hp : P l) : P l' := by
  induction h with
  | refl => exact hp
  | tail hs h ih =>
    have hevolves := Changes.evolves hs hl
    exact hP _ _ hevolves.sound (hevolves.filed hfiled) ih h

/-- What holds of the empty lexicon and is kept by changes and by releasing machines holds of all lexica that
can be reached. -/
theorem Reachable.invariant {P : Lexicon → Prop} (hempty : P empty)
    (hchange : ∀ l l', l.Sound → l.Filed → P l → Change l l' → P l')
    (hretain : ∀ l roots, P l → P { l with graph := (l.graph.retain roots).2 })
    (hclear : ∀ l, P l → P l.clearActive) (h : l.Reachable) : P l := by
  obtain ⟨history, rfl⟩ := h
  have hrun : ∀ (history : List Call) (l : Lexicon), l.Sound → l.Filed → P l → P (l.replay history) := by
    intro history
    induction history with
    | nil => exact fun _ _ _ hp => hp
    | cons c history ih =>
      intro l hl hfiled hp
      have hevolves := hl.evolves_call c
      refine ih (l.call c) hevolves.sound (hevolves.filed hfiled) ?_
      by_cases hr : ∃ roots, c = .retain roots
      · obtain ⟨roots, rfl⟩ := hr
        exact hretain l roots hp
      by_cases hc : c = .clearActive
      · subst hc
        exact hclear l hp
      exact (changes_call c (fun roots heq => hr ⟨roots, heq⟩) hc l).keeps hchange hl hfiled hp
  exact hrun history empty sound_empty filed_empty hempty

/-! ## The two views of the working set -/

/-- The order has exactly the machines that are filed under some name. -/
def Listed (l : Lexicon) : Prop :=
  ∀ id, id ∈ l.order ↔ ∃ name, id ∈ l.instances name

theorem mem_instances : id ∈ l.instances name ↔ ∃ e ∈ l.entries name, e.machine = id :=
  List.mem_map

/-! What is filed after each of the changes of the working set. -/

theorem any_entries_iff : (l.entries name).any (·.machine = id) = true ↔ id ∈ l.instances name := by
  rw [List.any_eq_true, mem_instances]
  simp

theorem register_of_mem (h : id ∈ l.instances name) : register name id l = l :=
  if_pos (any_entries_iff.2 h)

theorem register_of_not_mem (h : id ∉ l.instances name) :
    register name id l =
      { l with
        active := l.active.insert name (l.entries name ++ [⟨id, false⟩])
        order := l.order ++ [id] } :=
  if_neg (mt any_entries_iff.1 h)

theorem instances_register (h : id ∉ l.instances name) (other : String) :
    (register name id l).instances other =
      if other = name then l.instances name ++ [id] else l.instances other := by
  rw [register_of_not_mem h, instances, entries_insert]
  split
  · rw [List.map_append, instances]
    rfl
  · rfl

theorem instances_drop (name : String) (id : MachineId) (l : Lexicon) (other : String) :
    (drop name id l).instances other =
      if other = name then (l.instances name).filter (· ≠ id) else l.instances other := by
  rw [instances, entries_drop]
  split
  · rw [instances, List.filter_map]
    rfl
  · rfl

theorem instances_flag (name : String) (id : MachineId) (l : Lexicon) (other : String) :
    instances { l with active := l.active.insert name ((l.entries name).map (ActiveEntry.expand id)) } other =
      l.instances other := by
  rw [instances, entries_insert l name _ l.order]
  split
  · rename_i heq
    subst heq
    rw [List.map_map, instances]
    exact List.map_congr_left fun e _ => e.machine_expand id
  · rfl

theorem Listed.of_eq (h : l.Listed) (hactive : l'.active = l.active) (horder : l'.order = l.order) :
    l'.Listed := by
  intro id
  simp only [instances, entries_congr hactive, horder]
  exact h id

theorem Listed.register (h : l.Listed) (name : String) (id : MachineId) :
    (register name id l).Listed := by
  by_cases hmem : id ∈ l.instances name
  · rw [register_of_mem hmem]
    exact h
  · intro other
    have hinstances : ∀ name', other ∈ (Lexicon.register name id l).instances name' ↔
        other ∈ l.instances name' ∨ name' = name ∧ other = id := by
      intro name'
      rw [instances_register hmem]
      split
      · rename_i heq
        simp [heq]
      · rename_i hne
        simp [hne]
    have horder : (Lexicon.register name id l).order = l.order ++ [id] := by
      rw [register_of_not_mem hmem]
    simp [hinstances, horder, h other, exists_or]

theorem Listed.drop (h : l.Listed) (hfiled : l.Filed) (hname : l.graph.name? id = some name) :
    (drop name id l).Listed := by
  intro other
  have hinstances : ∀ name', other ∈ (Lexicon.drop name id l).instances name' ↔
      other ∈ l.instances name' ∧ (name' = name → other ≠ id) := by
    intro name'
    rw [instances_drop]
    split
    · rename_i heq
      simp [heq]
    · rename_i hne
      simp [hne]
  have horder : other ∈ (Lexicon.drop name id l).order ↔ other ∈ l.order ∧ other ≠ id := by
    simp [Lexicon.drop]
  rw [horder, h other]
  simp only [hinstances]
  constructor
  · rintro ⟨⟨name', hmem⟩, hne⟩
    exact ⟨name', hmem, fun _ => hne⟩
  · rintro ⟨name', hmem, hne⟩
    refine ⟨⟨name', hmem⟩, ?_⟩
    -- a machine filed under another name has that name
    rintro rfl
    exact hne ((hfiled name' other hmem).2 name hname).symm rfl

theorem Listed.flag (h : l.Listed) (name : String) (id : MachineId) :
    Listed { l with active := l.active.insert name ((l.entries name).map (ActiveEntry.expand id)) } := by
  intro other
  simp only [instances_flag]
  exact h other

theorem Change.listed (h : Change l l') (hfiled : l.Filed) (hl : l.Listed) : l'.Listed := by
  rcases h.cases_active with ⟨hactive, horder⟩ | ⟨name, id, -, rfl⟩ | ⟨name, id, -, rfl⟩ | ⟨name, id, hname, rfl⟩
  · exact hl.of_eq hactive horder
  · exact hl.register name id
  · exact hl.flag name id
  · exact hl.drop hfiled hname

theorem listed_of_nil (hactive : l.active = {}) (horder : l.order = []) : l.Listed := by
  intro id
  rw [horder]
  refine ⟨fun h => (List.not_mem_nil h).elim, ?_⟩
  rintro ⟨name, h⟩
  rw [instances, entries, hactive] at h
  exact (List.not_mem_nil h).elim

theorem Reachable.listed (h : l.Reachable) : l.Listed :=
  h.invariant (listed_of_nil rfl rfl) (fun _ _ _ hfiled hl hchange => hchange.listed hfiled hl)
    (fun _ _ hl => hl.of_eq rfl rfl) fun _ _ => listed_of_nil rfl rfl

theorem Listed.mem_order_iff (h : l.Listed) (hfiled : l.Filed) (hlive : l.graph.contains id = true) :
    id ∈ l.order ↔ l.isActive id = true := by
  obtain ⟨m, hm⟩ := Graph.contains_iff.1 hlive
  rw [h id, isActive_iff, Graph.name?_of_find? hm]
  constructor
  · rintro ⟨name, hid⟩
    have hname := (hfiled name id hid).2 m.name (Graph.name?_of_find? hm)
    exact ⟨m.name, rfl, mem_instances.1 (hname ▸ hid)⟩
  · rintro ⟨name, -, hid⟩
    exact ⟨name, mem_instances.2 hid⟩

end Lexicon

end MeaningGraph
