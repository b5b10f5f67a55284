/-
# Expanding and activating in twins

A definition is background, so both sides expand it through the same numbered links.  Each link is
represented in the same way: the first active instance of the name, a child of the name, or a copy are
paired in turn, and which of the three it is depends only on what twins share.
-/
import MeaningGraph.Proofs.Twin.Lexicon

namespace MeaningGraph.Lexicon

open List (Forall₂)

variable {base l l₁ l₂ : Lexicon} {w w' : World} {a b id : MachineId}

theorem Confined.contains_link (h : Confined base l) {m : Machine}
    (hm : base.graph.find? id = some m) {link : Nat × MachineId} (hlink : link ∈ Graph.numberedLinks m) :
    base.graph.contains link.2 = true :=
  h.background.graph.contains_child ⟨m, hm, Graph.mem_numberedLinks.1 hlink⟩

theorem mergeActive_of_active {ids : List MachineId} (hids : ∀ id ∈ ids, l.isActive id = true) :
    mergeActive ids l = .ok ids l := by
  induction ids with
  | nil => rfl
  | cons id ids ih =>
    obtain ⟨hid, hrest⟩ := List.forall_mem_cons.1 hids
    have hmerge : merge id l = .ok id l := by
      rw [merge_eq, get_bind, if_pos hid]
      rfl
    unfold mergeActive
    change EStateM.bind (merge id) _ l = _
    simp only [EStateM.bind, hmerge]
    change EStateM.bind (mergeActive ids) _ l = _
    simp only [EStateM.bind, ih hrest]
    rfl

namespace Twin

/-! ## `expand` -/

theorem firstInstance? (h : Twin base w l₁ l₂) (name : String) :
    Option.Rel w.active (l₁.firstInstance? name) (l₂.firstInstance? name) :=
  rel_head? (h.instances name)

theorem firstNamed (h : Twin base w l₁ l₂) (name : String) {as bs : List MachineId}
    (has : Forall₂ w.own as bs) :
    ∃ x y, l₁.firstNamed name as = .ok x ∧ l₂.firstNamed name bs = .ok y ∧ Option.Rel w.own x y := by
  induction has with
  | nil => exact ⟨none, none, rfl, rfl, .none⟩
  | @cons a b as bs hab _ ih =>
    obtain ⟨m₁, m₂, h₁, h₂, halike⟩ := h.find? hab
    unfold Lexicon.firstNamed
    rw [Graph.name_of_find? h₁, Graph.name_of_find? h₂, halike.name]
    by_cases hname : m₂.name = name
    · exact ⟨some a, some b, by simp [hname, bind, Except.bind, pure, Except.pure],
        by simp [hname, bind, Except.bind, pure, Except.pure], .some hab⟩
    · obtain ⟨x, y, hx, hy, hxy⟩ := ih
      exact ⟨x, y, by simpa [hname, bind, Except.bind] using hx,
        by simpa [hname, bind, Except.bind] using hy, hxy⟩

theorem childNamed (h : Twin base w l₁ l₂) (hab : w.own a b) (p : Nat) (name : String) :
    ∃ x y, l₁.childNamed a p name = .ok x ∧ l₂.childNamed b p name = .ok y ∧ Option.Rel w.own x y := by
  obtain ⟨m₁, m₂, h₁, h₂, halike⟩ := h.find? hab
  obtain ⟨x, y, hx, hy, hxy⟩ := h.firstNamed name (halike.part p)
  refine ⟨x, y, ?_, ?_, hxy⟩
  · rw [Lexicon.childNamed, Graph.get_of_find? h₁]
    exact hx
  · rw [Lexicon.childNamed, Graph.get_of_find? h₂]
    exact hy

theorem chooseTarget (h : Twin base w l₁ l₂) (hab : w.own a b) (p : Nat) {source : MachineId}
    (hsource : base.graph.contains source = true) (name : String) :
    Agree base (fun w' x y => w'.own x y) w (chooseTarget a p source name l₁)
      (chooseTarget b p source name l₂) := by
  obtain ⟨x, y, hx, hy, hxy⟩ := h.childNamed hab p name
  unfold Lexicon.chooseTarget
  rw [ask_bind hx, ask_bind hy]
  cases hxy with
  | some hxy => exact .pure h hxy
  | none => exact h.deepCopy hsource

theorem linkTarget (h : Twin base w l₁ l₂) (hab : w.own a b) (p : Nat) {x y : MachineId}
    (hxy : w.own x y) :
    Agree base (fun _ _ _ => True) w (linkTarget a p x l₁) (linkTarget b p y l₂) := by
  unfold Lexicon.linkTarget
  refine (h.addActive (.cons hxy .nil)).bind fun w₁ _ _ s₁ t₁ hw₁ h₁ _ => ?_
  refine (h₁.append (hw₁.1 _ _ hab) (hw₁.1 _ _ hxy) p).bind fun w₂ _ _ s₂ t₂ _ h₂ _ => ?_
  exact .pure h₂ trivial

theorem represent (h : Twin base w l₁ l₂) (hab : w.own a b) (p : Nat) {source : MachineId}
    (hsource : base.graph.contains source = true) :
    Agree base (fun _ _ _ => True) w (represent a p source l₁) (represent b p source l₂) := by
  obtain ⟨m, -, h₁, h₂⟩ := h.find?_base hsource
  have hfirst := h.firstInstance? m.name
  rw [represent_eq, represent_eq, ask_bind (Graph.name_of_find? h₁), ask_bind (Graph.name_of_find? h₂),
    get_bind, get_bind]
  generalize l₁.firstInstance? m.name = x at hfirst
  generalize l₂.firstInstance? m.name = y at hfirst
  cases hfirst with
  | some hxy =>
    refine (h.append hab (h.own_of_active hxy) p).bind fun w' _ _ s t _ h' _ => ?_
    exact .pure h' trivial
  | none =>
    refine (h.chooseTarget hab p hsource m.name).bind fun w' x y s t hw h' hxy => ?_
    exact h'.linkTarget (hw.1 _ _ hab) p hxy

theorem representAll (h : Twin base w l₁ l₂) (hab : w.own a b) {links : List (Nat × MachineId)}
    (hlinks : ∀ link ∈ links, base.graph.contains link.2 = true) :
    Agree base (fun _ _ _ => True) w (representAll a links l₁) (representAll b links l₂) := by
  induction links generalizing w l₁ l₂ with
  | nil => exact .pure h trivial
  | cons link rest ih =>
    obtain ⟨hsource, hrest⟩ := List.forall_mem_cons.1 hlinks
    refine (h.represent hab link.1 hsource).bind fun w₁ _ _ s₁ t₁ hw₁ h₁ _ => ?_
    refine (ih h₁ (hw₁.1 _ _ hab) hrest).bind fun w₂ _ _ s₂ t₂ _ h₂ _ => ?_
    exact .pure h₂ trivial

theorem expand (h : Twin base w l₁ l₂) (hab : w.active a b) :
    Agree base (fun _ _ _ => True) w (expand a l₁) (expand b l₂) := by
  have hown := h.own_of_active hab
  obtain ⟨m₁, m₂, h₁, h₂, halike⟩ := h.find? hown
  have hactive : l₁.isActive a = true := h.named a (h.mem_order a b hab)
  rw [expand_eq, expand_eq, ask_bind (Graph.name_of_find? h₁), ask_bind (Graph.name_of_find? h₂),
    get_bind, get_bind, ← h.isActive_eq hown, hactive, if_pos rfl, if_pos rfl, ← halike.name]
  unfold expandActive
  rw [get_bind, get_bind]
  have hstatic : l₂.static? m₁.name = l₁.static? m₁.name := by
    rw [static?, static?, h.statics_eq]
  rw [hstatic]
  cases hdef : l₁.static? m₁.name with
  | none =>
    refine (h.setExpanded hown).bind fun w' _ _ s t _ h' _ => ?_
    exact .pure h' trivial
  | some definition =>
    have hmem : definition ∈ base.statics.values :=
      h.left.statics ▸ Table.mem_values_of_find? hdef
    obtain ⟨m, hm, hget₁, hget₂⟩ | ⟨hget₁, hget₂⟩ := h.get_static hmem
    · change Agree base _ w ((ask (·.graph.get definition) >>= _) l₁) ((ask (·.graph.get definition) >>= _) l₂)
      rw [ask_bind hget₁, ask_bind hget₂]
      refine (h.representAll hown fun link => h.left.contains_link hm).bind
        fun w₁ _ _ s₁ t₁ hw₁ h₁ _ => ?_
      refine (h₁.setExpanded (hw₁.1 _ _ hown)).bind fun w₂ _ _ s₂ t₂ _ h₂ _ => ?_
      exact .pure h₂ trivial
    · change Agree base _ w ((ask (·.graph.get definition) >>= _) l₁) ((ask (·.graph.get definition) >>= _) l₂)
      rw [ask_bind_error hget₁, ask_bind_error hget₂]
      exact h.error Iff.rfl

/-! ## `activate` -/

theorem allNamesActive_eq (h : Twin base w l₁ l₂) {ids : List MachineId}
    (hids : ∀ id ∈ ids, base.graph.contains id = true) :
    ∃ flag, l₁.allNamesActive ids = .ok flag ∧ l₂.allNamesActive ids = .ok flag := by
  induction ids with
  | nil => exact ⟨true, rfl, rfl⟩
  | cons id ids ih =>
    obtain ⟨hid, hrest⟩ := List.forall_mem_cons.1 hids
    obtain ⟨m, -, h₁, h₂⟩ := h.find?_base hid
    unfold Lexicon.allNamesActive
    rw [Graph.name_of_find? h₁, Graph.name_of_find? h₂]
    change ∃ flag, (if l₁.isNameActive m.name = true then _ else Except.ok false) = _ ∧
      (if l₂.isNameActive m.name = true then _ else Except.ok false) = _
    rw [← h.isNameActive_eq m.name]
    split
    · exact ih hrest
    · exact ⟨false, rfl, rfl⟩

theorem instantiate (h : Twin base w l₁ l₂) (name : String) (control : Option Control) :
    Agree base (fun w' x y => Option.Rel w'.active x y) w (instantiate name control l₁)
      (instantiate name control l₂) := by
  unfold Lexicon.instantiate
  refine (h.create name control).bind fun w₁ a b s₁ t₁ _ h₁ hab => ?_
  refine (h₁.addActive (.cons hab .nil)).bind fun w₂ _ _ s₂ t₂ _ h₂ hact => ?_
  cases hact with
  | cons hact _ => exact .pure h₂ (.some hact)

theorem promote (h : Twin base w l₁ l₂) (name : String) {definition : MachineId}
    (hmem : definition ∈ base.statics.values) :
    Agree base (fun w' x y => Option.Rel w'.active x y) w (promote name definition l₁)
      (promote name definition l₂) := by
  rw [promote_eq]
  obtain ⟨m, hm, hget₁, hget₂⟩ | ⟨hget₁, hget₂⟩ := h.get_static hmem
  · rw [ask_bind hget₁, ask_bind hget₂]
    split
    · exact .pure h .none
    · have hids : ∀ id ∈ (m.parts.drop 1).flatten, base.graph.contains id = true := by
        intro id hid
        obtain ⟨part, hpart, hid⟩ := List.mem_flatten.1 hid
        obtain ⟨p, hp⟩ := List.mem_iff_getElem?.1 (List.mem_of_mem_drop hpart)
        exact h.left.background.graph.contains_child ⟨m, hm, Machine.mem_part_iff.2 ⟨part, hp, hid⟩⟩
      obtain ⟨flag, hflag₁, hflag₂⟩ := h.allNamesActive_eq hids
      rw [ask_bind hflag₁, ask_bind hflag₂]
      cases flag with
      | true => exact h.instantiate name m.control
      | false => exact .pure h .none
  · rw [ask_bind_error hget₁, ask_bind_error hget₂]
    exact h.error Iff.rfl

theorem promoteAll (h : Twin base w l₁ l₂) {entries : List (String × MachineId)}
    (hentries : ∀ e ∈ entries, e.2 ∈ base.statics.values) :
    Agree base (fun w' xs ys => Forall₂ w'.active xs ys) w (promoteAll entries l₁)
      (promoteAll entries l₂) := by
  induction entries generalizing w l₁ l₂ with
  | nil => exact .pure h .nil
  | cons e rest ih =>
    obtain ⟨hmem, hrest⟩ := List.forall_mem_cons.1 hentries
    refine (h.promote e.1 hmem).bind fun w₁ x y s₁ t₁ _ h₁ hxy => ?_
    refine (ih h₁ hrest).bind fun w₂ xs ys s₂ t₂ hw h₂ hxys => ?_
    refine .pure h₂ (List.rel_append ?_ hxys)
    cases hxy with
    | some hxy => exact .cons (hw.2 _ _ hxy) .nil
    | none => exact .nil

theorem activate (h : Twin base w l₁ l₂) :
    Agree base (fun w' xs ys => Forall₂ w'.active xs ys) w (activate l₁) (activate l₂) := by
  unfold Lexicon.activate
  rw [get_bind, get_bind, ← h.statics_eq]
  simp only [← h.isNameActive_eq]
  refine h.promoteAll ?_
  intro e he
  rw [← h.left.statics]
  exact List.mem_map_of_mem (List.mem_of_mem_filter he)

/-! ## `mergeActive` -/

theorem mergeActive (h : Twin base w l₁ l₂) {as bs : List MachineId} (has : Forall₂ w.active as bs) :
    Agree base (fun w' xs ys => Forall₂ w'.active xs ys) w (mergeActive as l₁)
      (mergeActive bs l₂) := by
  rw [mergeActive_of_active fun id hid => ?_, mergeActive_of_active fun id hid => ?_]
  · exact .ok h has
  · obtain ⟨a, -, hab⟩ := exists_of_forall₂_left has.flip hid
    rw [← h.isActive_eq (h.own_of_active hab)]
    exact h.named a (h.mem_order _ _ hab)
  · obtain ⟨b, -, hab⟩ := exists_of_forall₂_left has hid
    exact h.named id (h.mem_order _ _ hab)

end Twin

end MeaningGraph.Lexicon
