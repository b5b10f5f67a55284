/-
# The lexicon in order

A lexicon is in order when its graph is and when every handle in its static table was given out at some
time.  A static handle may be stale; that it was given out once is what keeps it from naming a machine
that is made later.

`Evolves l l'` says that `l'` is in order and that its graph comes after that of `l`.  It is shown of the
primitive steps, and `Outcome.Keeps` carries it through the operations made of them, failures included.
-/
import MeaningGraph.Proofs.Graph.Names
import MeaningGraph.Proofs.Lexicon.Filed
import MeaningGraph.Proofs.Lexicon.Steps
import MeaningGraph.Proofs.Table

namespace MeaningGraph

open Outcome

namespace Lexicon

variable {R : Lexicon → Lexicon → Prop} {α : Type} {Q : α → Lexicon → Prop} {l l' l'' : Lexicon}

/-! ## Primitive steps -/

theorem ask_bind {β : Type} {f : Lexicon → Except Error α} {k : α → LexiconM β} {r : α} (h : f l = .ok r) :
    (ask f >>= k) l = k r l := by
  change EStateM.bind (ask f) k l = k r l
  simp only [EStateM.bind, ask, h]

theorem ask_bind_error {β : Type} {f : Lexicon → Except Error α} {k : α → LexiconM β} {e : Error}
    (h : f l = .error e) : (ask f >>= k) l = .error e l := by
  change EStateM.bind (ask f) k l = .error e l
  simp only [EStateM.bind, ask, h]

theorem ask_ok {f : Lexicon → Except Error α} {a : α} (h : ask f l = .ok a l') :
    f l = .ok a ∧ l' = l := by
  unfold ask at h
  cases hf : f l with
  | error e =>
    rw [hf] at h
    cases h
  | ok b =>
    rw [hf] at h
    cases h
    exact ⟨rfl, rfl⟩

theorem changeGraph_ok {f : Graph → Except Error Graph} {u : Unit} (h : changeGraph f l = .ok u l') :
    ∃ g, f l.graph = .ok g ∧ l' = { l with graph := g } := by
  unfold changeGraph at h
  cases hf : f l.graph with
  | error e =>
    rw [hf] at h
    cases h
  | ok g =>
    rw [hf] at h
    cases h
    exact ⟨g, rfl, rfl⟩

theorem changeGraph_of_ok {f : Graph → Except Error Graph} {g : Graph} (h : f l.graph = .ok g) :
    changeGraph f l = .ok () { l with graph := g } := by
  rw [changeGraph, h]

theorem changeGraph_error {f : Graph → Except Error Graph} {e : Error} (h : changeGraph f l = .error e l') :
    f l.graph = .error e ∧ l' = l := by
  unfold changeGraph at h
  cases hf : f l.graph with
  | error e =>
    rw [hf] at h
    cases h
    exact ⟨rfl, rfl⟩
  | ok g =>
    rw [hf] at h
    cases h

theorem changeGraph_bind_error {f : Graph → Except Error Graph} {k : Unit → LexiconM α} {e : Error}
    (h : f l.graph = .error e) : (changeGraph f >>= k) l = .error e l := by
  change EStateM.bind (changeGraph f) k l = .error e l
  simp only [EStateM.bind, changeGraph, h]

theorem grow_ok {f : Graph → Except Error (MachineId × Graph)} {id : MachineId}
    (h : grow f l = .ok id l') : ∃ g, f l.graph = .ok (id, g) ∧ l' = { l with graph := g } := by
  unfold grow at h
  cases hf : f l.graph with
  | error e =>
    rw [hf] at h
    cases h
  | ok r =>
    rw [hf] at h
    cases h
    exact ⟨r.2, rfl, rfl⟩

theorem get_bind (f : Lexicon → LexiconM α) (l : Lexicon) : (get >>= f) l = f l l :=
  rfl

theorem keeps_ask {f : Lexicon → Except Error α} (hR : R l l) (hQ : ∀ a, f l = .ok a → Q a l) :
    Keeps R Q l (ask f l) := by
  unfold ask
  cases h : f l with
  | error e => exact hR
  | ok a => exact ⟨hR, hQ a h⟩

theorem keeps_changeGraph {f : Graph → Except Error Graph} {Q : Unit → Lexicon → Prop} (hR : R l l)
    (h : ∀ g, f l.graph = .ok g → R l { l with graph := g } ∧ Q () { l with graph := g }) :
    Keeps R Q l (changeGraph f l) := by
  unfold changeGraph
  cases hf : f l.graph with
  | error e => exact hR
  | ok g => exact h g hf

theorem keeps_grow {f : Graph → Except Error (MachineId × Graph)} {Q : MachineId → Lexicon → Prop}
    (hR : R l l)
    (h : ∀ id g, f l.graph = .ok (id, g) →
      R l { l with graph := g } ∧ Q id { l with graph := g }) :
    Keeps R Q l (grow f l) := by
  unfold grow
  cases hf : f l.graph with
  | error e => exact hR
  | ok r => exact h r.1 r.2 hf

theorem keeps_get {Q : Lexicon → Lexicon → Prop} (hR : R l l) (hQ : Q l l) :
    Keeps R Q l ((get : LexiconM Lexicon) l) :=
  ⟨hR, hQ⟩

theorem keeps_modify {f : Lexicon → Lexicon} {Q : Unit → Lexicon → Prop} (hR : R l (f l))
    (hQ : Q () (f l)) : Keeps R Q l ((modify f : LexiconM Unit) l) :=
  ⟨hR, hQ⟩

/-! ## Being in order, over time -/

/-- The lexicon is in order: its graph is, and its static handles were given out. -/
structure Sound (l : Lexicon) : Prop where
  graph : l.graph.Sound
  known : ∀ id ∈ l.statics.values, l.graph.Known id

/-- `l'` is in order and comes after `l`: its graph does, what is live in both has kept its name, and the
active machines are still filed under their names. -/
structure Evolves (l l' : Lexicon) : Prop where
  sound : l'.Sound
  ages : Graph.Ages l.graph l'.graph
  names : ∀ id name, l.graph.Known id → l'.graph.name? id = some name → l.graph.name? id = some name
  filed : l.Filed → l'.Filed

theorem sound_empty : Sound empty where
  graph := Graph.sound_empty
  known _ h := (List.not_mem_nil h).elim

theorem Sound.evolves_refl (h : l.Sound) : Evolves l l :=
  ⟨h, .refl _, fun _ _ _ hname => hname, fun hfiled => hfiled⟩

theorem Evolves.trans (h : Evolves l l') (h' : Evolves l' l'') : Evolves l l'' where
  sound := h'.sound
  ages := h.ages.trans h'.ages
  names id name hid hname := h.names id name hid (h'.names id name (h.ages.known id hid) hname)
  filed hfiled := h'.filed (h.filed hfiled)

theorem Evolves.name?_eq {id : MachineId} (h : Evolves l l') (hbefore : l.graph.contains id = true)
    (hlive : l'.graph.contains id = true) : l'.graph.name? id = l.graph.name? id := by
  obtain ⟨m, hm⟩ := Graph.contains_iff.1 hlive
  have hname := Graph.name?_of_find? hm
  rw [hname, h.names id _ (.of_contains hbefore) hname]

theorem Evolves.name?_of_filed {id : MachineId} {name : String} (h : Evolves l l') (hfiled : l.Filed)
    (hid : id ∈ l.instances name) (hlive : l'.graph.contains id = true) :
    l'.graph.name? id = some name := by
  obtain ⟨hknown, hname⟩ := hfiled name id hid
  obtain ⟨m, hm⟩ := Graph.contains_iff.1 hlive
  have hlast := Graph.name?_of_find? hm
  rw [hlast, hname _ (h.names id _ hknown hlast)]

theorem Sound.evolves_graph (h : l.Sound) {g : Graph} (hg : Graph.Evolves l.graph g) :
    Evolves l { l with graph := g } where
  sound := ⟨hg.sound, fun id hid => hg.ages.known id (h.known id hid)⟩
  ages := hg.ages
  names := hg.names
  filed hfiled := hfiled.evolve hg

theorem Sound.of_eq (h : l.Sound) (hgraph : l'.graph = l.graph) (hstatics : l'.statics = l.statics) :
    l'.Sound :=
  ⟨hgraph ▸ h.graph, fun id hid => hgraph ▸ h.known id (hstatics ▸ hid)⟩

theorem Sound.evolves_of_eq (h : l.Sound) (hgraph : l'.graph = l.graph)
    (hstatics : l'.statics = l.statics) (hfiled : l.Filed → l'.Filed) : Evolves l l' where
  sound := h.of_eq hgraph hstatics
  ages := hgraph ▸ .refl _
  names _ _ _ hname := hgraph ▸ hname
  filed := hfiled

theorem graph_register (name : String) (id : MachineId) (l : Lexicon) :
    (register name id l).graph = l.graph := by
  unfold register
  split <;> rfl

theorem statics_register (name : String) (id : MachineId) (l : Lexicon) :
    (register name id l).statics = l.statics := by
  unfold register
  split <;> rfl

/-- The operation keeps a lexicon in order, whether or not it succeeds. -/
def KeepsSound (x : LexiconM α) : Prop :=
  ∀ l, l.Sound → Keeps Evolves (fun _ _ => True) l (x l)

namespace KeepsSound

variable {β : Type}

theorem bind {x : LexiconM α} {f : α → LexiconM β} (hx : KeepsSound x)
    (hf : ∀ a, KeepsSound (f a)) : KeepsSound (x >>= f) :=
  fun l h => (hx l h).bind Evolves.trans fun a l' hR _ => hf a l' hR.sound

theorem pure (a : α) : KeepsSound (pure a : LexiconM α) :=
  fun _ h => ⟨h.evolves_refl, trivial⟩

theorem throw (e : Error) : KeepsSound (throw e : LexiconM α) :=
  fun _ h => h.evolves_refl

theorem ask (f : Lexicon → Except Error α) : KeepsSound (ask f) :=
  fun _ h => keeps_ask h.evolves_refl fun _ _ => trivial

theorem get : KeepsSound (get : LexiconM Lexicon) :=
  fun _ h => keeps_get h.evolves_refl trivial

theorem changeGraph {f : Graph → Except Error Graph}
    (hf : ∀ g g', g.Sound → f g = .ok g' → Graph.Evolves g g') : KeepsSound (changeGraph f) :=
  fun l h => keeps_changeGraph h.evolves_refl fun g hg =>
    ⟨h.evolves_graph (hf l.graph g h.graph hg), trivial⟩

theorem modify {f : Lexicon → Lexicon} (hgraph : ∀ l, (f l).graph = l.graph)
    (hstatics : ∀ l, (f l).statics = l.statics) (hfiled : ∀ l, l.Filed → (f l).Filed) :
    KeepsSound (modify f : LexiconM Unit) :=
  fun l h => keeps_modify (h.evolves_of_eq (hgraph l) (hstatics l) (hfiled l)) trivial

theorem create (name : String) (control : Option Control) : KeepsSound (create name control) :=
  fun _ h => ⟨h.evolves_graph (h.graph.evolves_create name control), trivial⟩

theorem append (p c : MachineId) (i : Nat) : KeepsSound (Lexicon.changeGraph (·.append p c i)) :=
  changeGraph fun _ _ hg h => hg.evolves_append h

theorem deepCopy (root : MachineId) : KeepsSound (grow (·.deepCopy root)) :=
  fun _ h => keeps_grow h.evolves_refl fun _ _ hcopy =>
    ⟨h.evolves_graph (h.graph.evolves_deepCopy hcopy), trivial⟩

/-! ## The operations -/

theorem ask_name_bind {id : MachineId} {f : String → LexiconM α}
    (hf : ∀ name l, l.Sound → l.graph.name? id = some name → Keeps Evolves (fun _ _ => True) l (f name l)) :
    KeepsSound (Lexicon.ask (·.graph.name id) >>= f) := by
  intro l h
  have hname : Keeps Evolves (fun name l' => l'.graph.name? id = some name) l
      (Lexicon.ask (·.graph.name id) l) :=
    keeps_ask h.evolves_refl fun _ hok => Graph.name?_of_name hok
  exact hname.bind Evolves.trans fun name l' hl' hname => hf name l' hl'.sound hname

theorem addActive (ids : List MachineId) : KeepsSound (addActive ids) := by
  induction ids with
  | nil => exact pure ()
  | cons id ids ih =>
    refine ask_name_bind fun name l h hname => ?_
    have hregister : Evolves l (register name id l) :=
      h.evolves_of_eq (graph_register name id l) (statics_register name id l) fun hfiled =>
        hfiled.register hname
    exact Keeps.bind (Q := fun _ _ => True) Evolves.trans (keeps_modify hregister trivial)
      fun _ l' hl' _ => ih l' hl'.sound

theorem addStatic (ids : List MachineId) : KeepsSound (addStatic ids) := by
  induction ids with
  | nil => exact pure ()
  | cons id ids ih =>
    refine ask_name_bind fun name l h hname => ?_
    have hinsert : Evolves l { l with statics := l.statics.insert name id } := by
      refine ⟨⟨h.graph, ?_⟩, .refl _, fun _ _ _ hname => hname, fun hfiled => hfiled⟩
      intro other hother
      rcases Table.mem_values_insert hother with rfl | hother
      · exact .of_contains (Graph.contains_of_name? hname)
      · exact h.known other hother
    exact Keeps.bind (Q := fun _ _ => True) Evolves.trans (keeps_modify hinsert trivial)
      fun _ l' hl' _ => ih l' hl'.sound

theorem setExpanded (id : MachineId) : KeepsSound (setExpanded id) := by
  refine (ask _).bind fun name l h => ?_
  change Keeps Evolves _ l
    ((if (l.entries name).any (·.machine = id) then set _ else MonadExcept.throw _ : LexiconM Unit) l)
  split
  · exact ⟨h.evolves_of_eq rfl rfl fun hfiled => hfiled.expand name id, trivial⟩
  · exact h.evolves_refl

/-- Keeping a lexicon in order is a matter of the steps. -/
theorem stepwise : Stepwise fun _ x => KeepsSound x :=
  ⟨pure, bind, ask, get, throw⟩

theorem represent (id : MachineId) (p : Nat) (source : MachineId) : KeepsSound (represent id p source) :=
  stepwise.represent deepCopy addActive append id p source

theorem expand (id : MachineId) : KeepsSound (expand id) :=
  stepwise.expand represent setExpanded id

theorem promote (name : String) (definition : MachineId) : KeepsSound (promote name definition) :=
  stepwise.promote create addActive name definition

theorem activate : KeepsSound activate :=
  stepwise.activate promote

theorem unify (keep merge : MachineId) : KeepsSound (unify keep merge) := by
  rw [unify_eq]
  split
  · exact pure ()
  · refine (changeGraph fun _ _ hg h => hg.evolves_fold h).bind fun _ => (ask _).bind fun name => ?_
    exact modify (fun _ => rfl) (fun _ => rfl) fun l hfiled => hfiled.drop name merge

theorem merge (id : MachineId) : KeepsSound (merge id) :=
  stepwise.merge unify addActive id

theorem mergeActive (ids : List MachineId) : KeepsSound (mergeActive ids) :=
  stepwise.mergeActive merge ids

end KeepsSound

/-- Clearing keeps a lexicon in order. -/
theorem Sound.evolves_clearActive (h : l.Sound) : Evolves l l.clearActive :=
  have hgraph := h.graph.evolves_retain (l.graph.connected l.statics.values l.order)
  { sound := ⟨hgraph.sound, fun id hid => hgraph.ages.known id (h.known id hid)⟩
    ages := hgraph.ages
    names := hgraph.names
    filed := fun _ => filed_of_active_eq_empty rfl }

end Lexicon

end MeaningGraph
