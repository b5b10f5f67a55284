/-
# Twin lexica

A world says what two runs have in common: the machines that both made, pair by pair, and which of these
pairs are active.  `Twin base w l₁ l₂` says that both lexica work beside the background `base`, that the
paired machines are alike, and that the working sets are paired place by place.

    l₁.order     a₁   a₂   a₃   ...
                 │    │    │          w.active
    l₂.order     b₁   b₂   b₃   ...

Every operation that an analysis uses leads from twins to twins, in a world that has grown.  Where it fails
it fails on both sides, and both lexica still work beside the background.
-/
import MeaningGraph.Proofs.Lexicon.WorkingSet
import MeaningGraph.Proofs.Twin.Graph
import MeaningGraph.Proofs.Twin.Outcome

namespace MeaningGraph

open List (Forall₂)

/-- What two runs have in common. -/
structure World where
  own : Pairing
  active : Pairing

namespace World

instance : Preorder World :=
  Preorder.lift fun w => (w.own, w.active)

variable {w w' : World}

/-- The world with more pairs of own machines. -/
def withOwn (w : World) (v : Pairing) : World :=
  { w with own := v }

/-- The world in which a pair is active, too. -/
def activate (w : World) (a b : MachineId) : World :=
  { w with active := w.active.add a b }

theorem le_withOwn {v : Pairing} (h : w.own ≤ v) : w ≤ w.withOwn v :=
  ⟨h, le_refl w.active⟩

theorem le_activate (w : World) (a b : MachineId) : w ≤ w.activate a b :=
  ⟨le_refl w.own, Pairing.le_add w.active a b⟩

end World

/-- Two entries are paired: their machines are, and both are expanded or neither is. -/
structure ActiveEntry.Paired (v : Pairing) (e₁ e₂ : ActiveEntry) : Prop where
  machine : v e₁.machine e₂.machine
  expanded : e₁.expanded = e₂.expanded

namespace Lexicon

/-- Two lexica that started from the background `base` are twins. -/
structure Twin (base : Lexicon) (w : World) (l₁ l₂ : Lexicon) : Prop where
  left : Confined base l₁
  right : Confined base l₂
  unique : Relator.BiUnique w.own
  own : ∀ a b, w.own a b → base.graph.contains a = false ∧ base.graph.contains b = false
  active_le_own : w.active ≤ w.own
  alike : Graph.Paired w.own l₁.graph l₂.graph
  entries : ∀ name, Forall₂ (ActiveEntry.Paired w.active) (l₁.entries name) (l₂.entries name)
  order : Forall₂ w.active l₁.order l₂.order
  mem_order : ∀ a b, w.active a b → a ∈ l₁.order
  named : ∀ id ∈ l₁.order, l₁.isActive id = true

/-- Outcomes of one operation on twins: twins again, or failures that left the background alone. -/
abbrev Agree {α : Type} (base : Lexicon) (V : World → α → α → Prop) (w : World) :
    EStateM.Result Error Lexicon α → EStateM.Result Error Lexicon α → Prop :=
  Outcome.Agree (Twin base) (fun l₁ l₂ => Confined base l₁ ∧ Confined base l₂) V w

variable {α β : Type} {base l l₁ l₂ : Lexicon} {w w' : World} {a b c d id : MachineId}
  {V : World → α → α → Prop}

/-! ## Reading -/

namespace Twin

theorem own_of_active (h : Twin base w l₁ l₂) (hab : w.active a b) : w.own a b :=
  h.active_le_own a b hab

theorem unique_active (h : Twin base w l₁ l₂) : Relator.BiUnique w.active :=
  ⟨fun _ _ _ hx hy => h.unique.1 (h.own_of_active hx) (h.own_of_active hy),
    fun _ _ _ hx hy => h.unique.2 (h.own_of_active hx) (h.own_of_active hy)⟩

theorem find? (h : Twin base w l₁ l₂) (hab : w.own a b) :
    ∃ m₁ m₂, l₁.graph.find? a = some m₁ ∧ l₂.graph.find? b = some m₂ ∧ m₁.Alike w.own m₂ :=
  h.alike a b hab

theorem statics_eq (h : Twin base w l₁ l₂) : l₁.statics = l₂.statics :=
  h.left.statics.trans h.right.statics.symm

theorem find?_base (h : Twin base w l₁ l₂) (hid : base.graph.contains id = true) :
    ∃ m, base.graph.find? id = some m ∧ l₁.graph.find? id = some m ∧ l₂.graph.find? id = some m :=
  let ⟨m, hm⟩ := Graph.contains_iff.1 hid
  ⟨m, hm, h.left.frame id m hm, h.right.frame id m hm⟩

theorem get_static (h : Twin base w l₁ l₂) {definition : MachineId}
    (hmem : definition ∈ base.statics.values) :
    (∃ m, base.graph.find? definition = some m ∧ l₁.graph.get definition = .ok m ∧
      l₂.graph.get definition = .ok m) ∨
    (l₁.graph.get definition = .error (.stale definition) ∧
      l₂.graph.get definition = .error (.stale definition)) := by
  cases hlive : base.graph.contains definition with
  | true =>
    obtain ⟨m, hm, hm₁, hm₂⟩ := h.find?_base hlive
    exact .inl ⟨m, hm, Graph.get_of_find? hm₁, Graph.get_of_find? hm₂⟩
  | false =>
    exact .inr ⟨Graph.get_of_not_contains (h.left.dead definition hmem hlive),
      Graph.get_of_not_contains (h.right.dead definition hmem hlive)⟩

theorem instances (h : Twin base w l₁ l₂) (name : String) :
    Forall₂ w.active (l₁.instances name) (l₂.instances name) := by
  refine List.forall₂_map_left_iff.2 (List.forall₂_map_right_iff.2 ?_)
  exact (h.entries name).imp fun _ _ he => he.machine

theorem isNameActive_eq (h : Twin base w l₁ l₂) (name : String) :
    l₁.isNameActive name = l₂.isNameActive name := by
  have hlen := (h.entries name).length_eq
  unfold isNameActive
  cases hl : l₁.entries name <;> cases hr : l₂.entries name
  · rfl
  · rw [hl, hr] at hlen
    cases hlen
  · rw [hl, hr] at hlen
    cases hlen
  · rfl

theorem entry? (h : Twin base w l₁ l₂) (hab : w.own a b) :
    Option.Rel (ActiveEntry.Paired w.active) (Lexicon.entry? l₁ a) (Lexicon.entry? l₂ b) := by
  obtain ⟨m₁, m₂, h₁, h₂, halike⟩ := h.find? hab
  unfold Lexicon.entry?
  rw [Graph.name?_of_find? h₁, Graph.name?_of_find? h₂, halike.name]
  refine rel_find? (h.entries m₂.name) fun e₁ e₂ he => decide_eq_decide.2 ?_
  exact Pairing.eq_iff h.unique (h.own_of_active he.machine) hab

theorem isActive_eq (h : Twin base w l₁ l₂) (hab : w.own a b) : l₁.isActive a = l₂.isActive b :=
  isSome_eq_of_rel (h.entry? hab)

theorem expanded (h : Twin base w l₁ l₂) (flag : Bool) :
    Forall₂ w.active (l₁.expanded flag) (l₂.expanded flag) := by
  refine rel_filter h.order ?_
  intro a b hab
  refine option_any_eq_of_rel (h.entry? (h.own_of_active hab)) ?_
  intro e₁ e₂ he
  rw [he.expanded]

/-! ## Changing -/

theorem of_graphs (h : Twin base w l₁ l₂) {g₁ g₂ : Graph} {v : Pairing}
    (hleft : Confined base { l₁ with graph := g₁ }) (hright : Confined base { l₂ with graph := g₂ })
    (hv : w.own ≤ v) (hunique : Relator.BiUnique v)
    (hown : ∀ a b, v a b → base.graph.contains a = false ∧ base.graph.contains b = false)
    (halike : Graph.Paired v g₁ g₂) (hnames : ∀ id ∈ l₁.order, g₁.name? id = l₁.graph.name? id) :
    Twin base (w.withOwn v) { l₁ with graph := g₁ } { l₂ with graph := g₂ } where
  left := hleft
  right := hright
  unique := hunique
  own := hown
  active_le_own := h.active_le_own.trans hv
  alike := halike
  entries := h.entries
  order := h.order
  mem_order := h.mem_order
  named id hid := by
    have hactive := h.named id hid
    unfold isActive Lexicon.entry? at hactive ⊢
    rw [hnames id hid]
    exact hactive

theorem contains_order (h : Twin base w l₁ l₂) (hid : id ∈ l₁.order) :
    l₁.graph.contains id = true :=
  let ⟨_, _, hab⟩ := exists_of_forall₂_left h.order hid
  h.alike.contains_left (h.own_of_active hab)

theorem error (h : Twin base w l₁ l₂) {e e' : Error} (he : e = .overflow ↔ e' = .overflow) :
    Agree base V w (.error e l₁ : EStateM.Result Error Lexicon α) (.error e' l₂) :=
  ⟨he, h.left, h.right⟩

theorem agree_ask (h : Twin base w l₁ l₂) (x : Except Error α) :
    Agree base (fun _ a b => a = b) w (Lexicon.ask (fun _ => x) l₁) (Lexicon.ask (fun _ => x) l₂) := by
  cases x with
  | ok a => exact .ok h rfl
  | error e => exact h.error Iff.rfl

theorem create (h : Twin base w l₁ l₂) (name : String) (control : Option Control) :
    Agree base (fun w' a b => w'.own a b) w (create name control l₁) (create name control l₂) := by
  have hs₁ := h.left.sound.graph.slots
  have hs₂ := h.right.sound.graph.slots
  have hnew₁ := hs₁.not_contains_create name control
  have hnew₂ := hs₂.not_contains_create name control
  have hle := w.own.le_add (l₁.graph.create name control).1 (l₂.graph.create name control).1
  refine ⟨_, World.le_withOwn hle, h.of_graphs (h.left.create name control)
    (h.right.create name control) hle ?_ ?_ (h.alike.create hs₁ hs₂ name control) ?_, .inr ⟨rfl, rfl⟩⟩
  · refine Pairing.biUnique_add h.unique ?_ ?_
    · intro y hy
      exact Bool.eq_false_iff.1 hnew₁ (h.alike.contains_left hy)
    · intro x hx
      exact Bool.eq_false_iff.1 hnew₂ (h.alike.contains_right hx)
  · rintro x y (hxy | ⟨rfl, rfl⟩)
    · exact h.own x y hxy
    · constructor
      · exact Bool.eq_false_iff.2 fun hb => Bool.eq_false_iff.1 hnew₁ (h.left.contains_of_base hb)
      · exact Bool.eq_false_iff.2 fun hb => Bool.eq_false_iff.1 hnew₂ (h.right.contains_of_base hb)
  · intro id hid
    exact congrArg (Option.map (·.name)) (hs₁.find?_create_of_contains name control (h.contains_order hid))

theorem of_graphs_same (h : Twin base w l₁ l₂) {g₁ g₂ : Graph}
    (hleft : Confined base { l₁ with graph := g₁ }) (hright : Confined base { l₂ with graph := g₂ })
    (halike : Graph.Paired w.own g₁ g₂) (hnames : ∀ id, g₁.name? id = l₁.graph.name? id) :
    Twin base w { l₁ with graph := g₁ } { l₂ with graph := g₂ } :=
  h.of_graphs hleft hright (le_refl w.own) h.unique h.own halike fun id _ => hnames id

theorem append (h : Twin base w l₁ l₂) (hp : w.own a b) (hc : w.own c d) (i : Nat) :
    Agree base (fun _ _ _ => True) w (changeGraph (·.append a c i) l₁)
      (changeGraph (·.append b d i) l₂) := by
  obtain ⟨g₁, g₂, h₁, h₂, halike⟩ := h.alike.append h.unique hp hc i
  simp only [changeGraph, h₁, h₂]
  refine .ok (h.of_graphs_same ?_ ?_ halike (Graph.name?_append h₁)) trivial
  · exact h.left.append (h.own _ _ hp).1 (h.own _ _ hc).1 h₁
  · exact h.right.append (h.own _ _ hp).2 (h.own _ _ hc).2 h₂

theorem setControl (h : Twin base w l₁ l₂) (hab : w.own a b) (control : Option Control) :
    Agree base (fun _ _ _ => True) w (changeGraph (·.setControl a control) l₁)
      (changeGraph (·.setControl b control) l₂) := by
  obtain ⟨m₁, m₂, hm₁, hm₂, -⟩ := h.find? hab
  have h₁ : l₁.graph.setControl a control = .ok (l₁.graph.update a fun m => { m with control }) := by
    rw [Graph.setControl, Graph.get_of_find? hm₁]
    rfl
  have h₂ : l₂.graph.setControl b control = .ok (l₂.graph.update b fun m => { m with control }) := by
    rw [Graph.setControl, Graph.get_of_find? hm₂]
    rfl
  simp only [changeGraph, h₁, h₂]
  refine .ok (h.of_graphs_same ?_ ?_ ?_ (Graph.name?_update ?_ l₁.graph a)) trivial
  · exact h.left.setControl (h.own _ _ hab).1 h₁
  · exact h.right.setControl (h.own _ _ hab).2 h₂
  · exact h.alike.update h.unique hab fun _ _ halike => halike.setControl control
  · exact fun _ => rfl

/-- A copy of a tree of the background. -/
theorem deepCopy (h : Twin base w l₁ l₂) (hid : base.graph.contains id = true) :
    Agree base (fun w' a b => w'.own a b) w (grow (·.deepCopy id) l₁) (grow (·.deepCopy id) l₂) := by
  obtain ⟨copy₁, g₁, heq₁, hcopy₁⟩ := h.left.sound.graph.copied (h.left.contains_of_base hid)
  obtain ⟨copy₂, g₂, heq₂, hcopy₂⟩ := h.right.sound.graph.copied (h.right.contains_of_base hid)
  have htree₁ := h.left.descendants_eq hid
  have htree : l₁.graph.descendants [id] = l₂.graph.descendants [id] :=
    htree₁.trans (h.right.descendants_eq hid).symm
  have hle : w.own ≤ fun x y => w.own x y ∨ Pairing.ofCopies (l₁.graph.copies id) (l₂.graph.copies id) x y :=
    fun _ _ => .inl
  simp only [grow, heq₁, heq₂]
  refine ⟨_, World.le_withOwn hle, h.of_graphs (h.left.deepCopy hcopy₁) (h.right.deepCopy hcopy₂) hle
    ?_ ?_ ?_ fun id hid => ?_, .inr ⟨id, hcopy₁.root_mem, hcopy₂.root_mem⟩⟩
  · refine Pairing.biUnique_or h.unique (hcopy₁.biUnique hcopy₂) ?_ ?_
    · rintro x y z hxy ⟨a, hax, -⟩
      exact Bool.eq_false_iff.1 (hcopy₁.not_contains hax) (h.alike.contains_left hxy)
    · rintro x y z hxy ⟨a, -, hay⟩
      exact Bool.eq_false_iff.1 (hcopy₂.not_contains hay) (h.alike.contains_right hxy)
  · rintro x y (hxy | ⟨a, hax, hay⟩)
    · exact h.own x y hxy
    · constructor
      · exact Bool.eq_false_iff.2 fun hb =>
          Bool.eq_false_iff.1 (hcopy₁.not_contains hax) (h.left.contains_of_base hb)
      · exact Bool.eq_false_iff.2 fun hb =>
          Bool.eq_false_iff.1 (hcopy₂.not_contains hay) (h.right.contains_of_base hb)
  · rintro x y (hxy | ⟨a, hax, hay⟩)
    · rw [hcopy₁.find?_old (h.alike.contains_left hxy), hcopy₂.find?_old (h.alike.contains_right hxy)]
      exact h.alike.mono hle hxy
    · -- the original is a machine of the background, where the tree lies
      have ha : a ∈ base.graph.descendants [id] := by
        rw [← htree₁, ← hcopy₁.originals]
        exact List.mem_map_of_mem hax
      obtain ⟨m, -, hm₁, hm₂⟩ :=
        h.find?_base (Graph.mem_handles_iff.1 (Graph.mem_handles_of_mem_descendants ha))
      refine ⟨_, _, ?_, ?_, (hcopy₁.alike hcopy₂ htree m).mono fun _ _ => .inr⟩
      · rw [hcopy₁.find?_copy a x hax, hm₁]
        rfl
      · rw [hcopy₂.find?_copy a y hay, hm₂]
        rfl
  · exact congrArg (Option.map (·.name)) (hcopy₁.find?_old (h.contains_order hid))

/-! ## The working set -/

theorem any_entries_eq (h : Twin base w l₁ l₂) (hab : w.own a b) (name : String) :
    (l₁.entries name).any (·.machine = a) = (l₂.entries name).any (·.machine = b) := by
  refine any_eq_of_rel (h.entries name) fun e₁ e₂ he => decide_eq_decide.2 ?_
  exact Pairing.eq_iff h.unique (h.own_of_active he.machine) hab

theorem active_of_any_entries (h : Twin base w l₁ l₂) (hab : w.own a b) {name : String}
    (hany : (l₁.entries name).any (·.machine = a) = true) : w.active a b := by
  obtain ⟨e₁, he₁, heq⟩ := List.any_eq_true.1 hany
  obtain ⟨e₂, -, he⟩ := exists_of_forall₂_left (h.entries name) he₁
  have ha : e₁.machine = a := of_decide_eq_true heq
  have hb := (Pairing.eq_iff h.unique (h.own_of_active he.machine) hab).1 ha
  exact ha ▸ hb ▸ he.machine

theorem of_entries (h : Twin base w l₁ l₂) {name : String} {es₁ es₂ : List ActiveEntry}
    {o₁ o₂ : List MachineId} {v : Pairing} (hv : w.active ≤ v) (hown : v ≤ w.own)
    (hes : Forall₂ (ActiveEntry.Paired v) es₁ es₂) (ho : Forall₂ v o₁ o₂)
    (hmem : ∀ a b, v a b → a ∈ o₁)
    (hkeep : ∀ e ∈ l₁.entries name, ∃ e' ∈ es₁, e'.machine = e.machine)
    (hnew : ∀ id ∈ o₁, id ∈ l₁.order ∨
      l₁.graph.name? id = some name ∧ ∃ e ∈ es₁, e.machine = id) :
    Twin base { w with active := v } { l₁ with active := l₁.active.insert name es₁, order := o₁ }
      { l₂ with active := l₂.active.insert name es₂, order := o₂ } where
  left := h.left.of_eq rfl rfl fun a ha =>
    let ⟨_, _, hab⟩ := exists_of_forall₂_left ho ha
    (h.own _ _ (hown _ _ hab)).1
  right := h.right.of_eq rfl rfl fun b hb =>
    let ⟨_, _, hab⟩ := exists_of_forall₂_left ho.flip hb
    (h.own _ _ (hown _ _ hab)).2
  unique := h.unique
  own := h.own
  active_le_own := hown
  alike := h.alike
  entries other := by
    rw [entries_insert, entries_insert]
    split
    · exact hes
    · exact (h.entries other).imp fun _ _ he => ⟨hv _ _ he.machine, he.expanded⟩
  order := ho
  mem_order := hmem
  named id hid := by
    rw [isActive_iff]
    rcases hnew id hid with hid | ⟨hname, e, he, heq⟩
    · obtain ⟨other, hother, e, he, heq⟩ := isActive_iff.1 (h.named id hid)
      refine ⟨other, hother, ?_⟩
      rw [entries_insert]
      split
      · rename_i hsame
        obtain ⟨e', he', heq'⟩ := hkeep e (hsame ▸ he)
        exact ⟨e', he', heq'.trans heq⟩
      · exact ⟨e, he, heq⟩
    · refine ⟨name, hname, ?_⟩
      rw [entries_insert, if_pos rfl]
      exact ⟨e, he, heq⟩

theorem register (h : Twin base w l₁ l₂) (hab : w.own a b) {name : String}
    (hname : l₁.graph.name? a = some name) :
    ∃ w', w ≤ w' ∧ Twin base w' (register name a l₁) (register name b l₂) ∧ w'.active a b := by
  unfold Lexicon.register
  rw [← h.any_entries_eq hab name]
  by_cases hany : (l₁.entries name).any (·.machine = a) = true
  · rw [if_pos hany, if_pos hany]
    exact ⟨w, le_refl w, h, h.active_of_any_entries hab hany⟩
  rw [if_neg hany, if_neg hany]
  have hle := w.active.le_add a b
  have hentries : Forall₂ (ActiveEntry.Paired (w.active.add a b)) (l₁.entries name)
      (l₂.entries name) :=
    (h.entries name).imp fun _ _ he => ⟨hle _ _ he.machine, he.expanded⟩
  refine ⟨w.activate a b, w.le_activate a b, h.of_entries hle ?_ ?_ ?_ ?_ ?_ ?_, .inr ⟨rfl, rfl⟩⟩
  · rintro x y (hxy | ⟨rfl, rfl⟩)
    · exact h.own_of_active hxy
    · exact hab
  · exact List.rel_append hentries (.cons ⟨.inr ⟨rfl, rfl⟩, rfl⟩ .nil)
  · exact List.rel_append (h.order.imp hle) (.cons (.inr ⟨rfl, rfl⟩) .nil)
  · rintro x y (hxy | ⟨rfl, rfl⟩)
    · exact List.mem_append_left _ (h.mem_order x y hxy)
    · exact List.mem_append_right _ List.mem_cons_self
  · exact fun e he => ⟨e, List.mem_append_left _ he, rfl⟩
  · intro id hid
    rcases List.mem_append.1 hid with hid | hid
    · exact .inl hid
    · obtain rfl := List.mem_singleton.1 hid
      exact .inr ⟨hname, _, List.mem_append_right _ List.mem_cons_self, rfl⟩

theorem addActive (h : Twin base w l₁ l₂) {as bs : List MachineId} (has : Forall₂ w.own as bs) :
    Agree base (fun w' _ _ => Forall₂ w'.active as bs) w (addActive as l₁) (addActive bs l₂) := by
  induction as generalizing w l₁ l₂ bs with
  | nil =>
    cases has
    exact .pure h .nil
  | cons a as ih =>
    cases has with
    | @cons _ b _ bs hab has =>
      obtain ⟨m₁, m₂, h₁, h₂, halike⟩ := h.find? hab
      obtain ⟨w', hle, htwin, hactive⟩ := h.register hab (Graph.name?_of_find? h₁)
      unfold Lexicon.addActive
      rw [ask_bind (Graph.name_of_find? h₁), ask_bind (Graph.name_of_find? h₂), ← halike.name]
      refine .bind (V := fun w' _ _ => w'.active a b) ⟨w', hle, htwin, hactive⟩ ?_
      intro w₁ _ _ s t hw hs hab'
      exact (ih hs (has.imp hw.1)).mono fun w₂ _ _ hw' has' => .cons (hw'.2 _ _ hab') has'

theorem setExpanded (h : Twin base w l₁ l₂) (hab : w.own a b) :
    Agree base (fun _ _ _ => True) w (setExpanded a l₁) (setExpanded b l₂) := by
  obtain ⟨m₁, m₂, h₁, h₂, halike⟩ := h.find? hab
  unfold Lexicon.setExpanded
  rw [ask_bind (Graph.name_of_find? h₁), ask_bind (Graph.name_of_find? h₂), ← halike.name]
  change Agree base _ w ((if (l₁.entries m₁.name).any (·.machine = a) then set _ else throw _ : LexiconM Unit) l₁)
    ((if (l₂.entries m₁.name).any (·.machine = b) then set _ else throw _ : LexiconM Unit) l₂)
  rw [← h.any_entries_eq hab m₁.name]
  split
  · refine .ok (h.of_entries (le_refl w.active) h.active_le_own ?_ h.order h.mem_order ?_
      fun id hid => .inl hid) trivial
    · refine List.forall₂_map_left_iff.2 (List.forall₂_map_right_iff.2 ?_)
      refine (h.entries m₁.name).imp ?_
      intro e₁ e₂ he
      have hiff := Pairing.eq_iff h.unique (h.own_of_active he.machine) hab
      unfold ActiveEntry.expand
      by_cases hb : e₂.machine = b
      · rw [if_pos hb, if_pos (hiff.2 hb)]
        exact ⟨he.machine, rfl⟩
      · rw [if_neg hb, if_neg (mt hiff.1 hb)]
        exact he
    · intro e he
      refine ⟨_, List.mem_map_of_mem he, ?_⟩
      unfold ActiveEntry.expand
      split <;> rfl
  · exact h.error Iff.rfl

end Twin

end Lexicon

end MeaningGraph
