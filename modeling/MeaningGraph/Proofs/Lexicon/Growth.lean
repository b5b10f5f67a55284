/-
# The working set grows or stands still

Expanding links a machine to active instances and, where a name has none, registers one at the end of the
order.  So when an expansion leaves the order as long as it was, it has registered nothing and made nothing:
all it did was draw links and set flags.

    Quiet l l'    the same machines are active; some that were not expanded may be
    Grows l l'    the order of l is the beginning of that of l', and if it is all of it, then Quiet l l'

Activation makes an instance of a name that has none, so it, too, changes nothing or makes the order longer.
-/
import MeaningGraph.Activation.Pass
import MeaningGraph.Proofs.Lexicon.WorkingSet
import MeaningGraph.Proofs.Related

namespace MeaningGraph

open List (Forall₂)
open Outcome (steps_of_ok)

/-- An entry of the same machine, expanded if the first is. -/
structure ActiveEntry.Kept (e e' : ActiveEntry) : Prop where
  machine : e'.machine = e.machine
  expanded : e.expanded = true → e'.expanded = true

namespace ActiveEntry

instance : Std.Refl Kept where
  refl _ := ⟨rfl, id⟩

instance : IsTrans ActiveEntry Kept where
  trans _ _ _ h h' := ⟨h'.machine.trans h.machine, fun he => h'.expanded (h.expanded he)⟩

theorem kept_expand (id : MachineId) (e : ActiveEntry) : Kept e (e.expand id) := by
  unfold expand
  split
  · exact ⟨rfl, fun _ => rfl⟩
  · exact refl_of Kept e

theorem expanded_expand {id : MachineId} {e : ActiveEntry} (h : e.machine = id) :
    (e.expand id).expanded = true := by
  unfold expand
  rw [if_pos h]

end ActiveEntry

namespace Lexicon

variable {l l' l'' : Lexicon} {id source definition : MachineId} {p : Nat} {name : String}

/-- The same machines are active under the same names; some that were not expanded may be. -/
structure Quiet (l l' : Lexicon) : Prop where
  names : ∀ id, l'.graph.name? id = l.graph.name? id
  order : l'.order = l.order
  entries : ∀ name, Forall₂ ActiveEntry.Kept (l.entries name) (l'.entries name)

/-- Machines come at the end of the order, if any come. -/
structure Grows (l l' : Lexicon) : Prop where
  order : l.order <+: l'.order
  quiet : l'.order.length ≤ l.order.length → Quiet l l'

instance : Std.Refl Quiet where
  refl _ := ⟨fun _ => rfl, rfl, fun _ => List.forall₂_refl _⟩

instance : IsTrans Lexicon Quiet where
  trans _ _ _ h h' :=
    ⟨fun id => (h'.names id).trans (h.names id), h'.order.trans h.order,
      fun name => forall₂_trans (h.entries name) (h'.entries name)⟩

theorem Quiet.grows (h : Quiet l l') : Grows l l' :=
  ⟨h.order ▸ List.prefix_rfl, fun _ => h⟩

instance : Std.Refl Grows where
  refl l := Quiet.grows (refl_of Quiet l)

instance : IsTrans Lexicon Grows where
  trans := by
    intro l l' l'' h h'
    refine ⟨h.order.trans h'.order, fun hle => ?_⟩
    have h₁ := h.order.length_le
    have h₂ := h'.order.length_le
    exact trans_of Quiet (h.quiet (by omega)) (h'.quiet (by omega))

theorem Grows.of_order (h : l'.order = l.order ++ [id]) : Grows l l' := by
  refine ⟨h ▸ List.prefix_append l.order [id], ?_⟩
  intro hle
  rw [h, List.length_append, List.length_singleton] at hle
  omega

/-! ## When nothing is registered -/

theorem Quiet.entry? (h : Quiet l l') (id : MachineId) :
    Option.Rel ActiveEntry.Kept (Lexicon.entry? l id) (Lexicon.entry? l' id) := by
  unfold Lexicon.entry?
  rw [h.names id]
  cases l.graph.name? id with
  | none => exact .none
  | some name =>
    refine rel_find? (h.entries name) ?_
    intro e e' he
    rw [he.machine]

theorem Quiet.expanded (h : Quiet l l') (hid : ∀ e, Lexicon.entry? l id = some e → e.expanded = true) :
    ∀ e, Lexicon.entry? l' id = some e → e.expanded = true := by
  intro e' he'
  have hrel := h.entry? id
  rw [he'] at hrel
  cases hl : Lexicon.entry? l id with
  | none =>
    rw [hl] at hrel
    cases hrel
  | some e =>
    rw [hl] at hrel
    cases hrel with
    | some hkept => exact hkept.expanded (hid e hl)

/-! ## Expanding -/

theorem quiet_append {u : Unit} {i c : MachineId} (h : changeGraph (·.append i c p) l = .ok u l') :
    Quiet l l' := by
  obtain ⟨g, hg, rfl⟩ := changeGraph_ok h
  exact ⟨Graph.name?_append hg, rfl, fun _ => List.forall₂_refl _⟩

theorem setExpanded_ok {u : Unit} (h : setExpanded id l = .ok u l') :
    Quiet l l' ∧ ∀ e, Lexicon.entry? l' id = some e → e.expanded = true := by
  obtain ⟨name, hname, -, rfl⟩ := setExpanded_cases h
  have hentries := entries_insert l name ((l.entries name).map (ActiveEntry.expand id)) l.order
  refine ⟨⟨fun _ => rfl, rfl, ?_⟩, ?_⟩
  · intro other
    refine (hentries other).symm ▸ ?_
    split
    · rename_i heq
      rw [heq]
      exact List.forall₂_map_right_iff.2 (List.forall₂_same.2 fun e _ => e.kept_expand id)
    · exact List.forall₂_refl _
  · intro e he
    unfold Lexicon.entry? at he
    rw [show Graph.name? _ id = some name from Graph.name?_of_name hname] at he
    change (Lexicon.entries _ name).find? _ = some e at he
    rw [hentries name, if_pos rfl] at he
    obtain ⟨e₀, -, rfl⟩ := List.mem_map.1 (List.mem_of_find?_eq_some he)
    have hmachine : e₀.machine = id := by simpa using List.find?_some he
    exact ActiveEntry.expanded_expand hmachine

theorem firstNamed_ok {ids : List MachineId} {child : MachineId}
    (h : l.firstNamed name ids = .ok (some child)) : l.graph.name? child = some name := by
  induction ids with
  | nil => cases h
  | cons id ids ih =>
    obtain ⟨other, hother, hrest⟩ := Outcome.ok_of_bind h
    by_cases heq : other = name
    · simp only [if_pos heq] at hrest
      cases hrest
      exact heq ▸ Graph.name?_of_name hother
    · simp only [if_neg heq] at hrest
      exact ih hrest

theorem chooseTarget_ok {target : MachineId} (h : l.Sound) (hname : l.graph.name? source = some name)
    (hchoose : chooseTarget id p source name l = .ok target l') :
    l'.graph.name? target = some name ∧ l'.order = l.order ∧ l'.active = l.active := by
  obtain ⟨found, l₁, hchild, hrest⟩ := steps_of_ok hchoose
  obtain ⟨hchild, rfl⟩ := ask_ok hchild
  cases found with
  | some child =>
    cases hrest
    obtain ⟨m, -, hfirst⟩ := Outcome.ok_of_bind hchild
    exact ⟨firstNamed_ok hfirst, rfl, rfl⟩
  | none =>
    obtain ⟨g, hcopy, rfl⟩ := grow_ok hrest
    exact ⟨(h.graph.name?_deepCopy hcopy).trans hname, rfl, rfl⟩

theorem grows_represent {r : Option MachineId} (h : l.Sound)
    (hrep : represent id p source l = .ok r l') : Grows l l' := by
  rw [represent_eq] at hrep
  obtain ⟨name, l₁, hname, hget⟩ := steps_of_ok hrep
  obtain ⟨hname, rfl⟩ := ask_ok hname
  rw [get_bind] at hget
  cases hfirst : l₁.firstInstance? name with
  | some target =>
    rw [hfirst] at hget
    obtain ⟨_, l₂, happend, hend⟩ := steps_of_ok hget
    cases hend
    exact (quiet_append happend).grows
  | none =>
    rw [hfirst] at hget
    obtain ⟨target, l₂, hchoose, hlink⟩ := steps_of_ok hget
    obtain ⟨htarget, horder, hactive⟩ := chooseTarget_ok h (Graph.name?_of_name hname) hchoose
    obtain ⟨_, l₃, hadd, hrest⟩ := steps_of_ok hlink
    obtain ⟨_, l₄, happend, hend⟩ := steps_of_ok hrest
    cases hend
    -- the name has no entry, so the target comes at the end of the order
    have hnil : l₂.entries name = [] :=
      (entries_congr hactive name).trans (entries_eq_nil_of_firstInstance? hfirst)
    have hlast : l'.order = l₁.order ++ [target] := by
      rw [(quiet_append happend).order, order_addActive_one hadd htarget hnil, horder]
    exact .of_order hlast

theorem grows_representAll {links : List (Nat × MachineId)} {new : List MachineId} (h : l.Sound)
    (hrep : representAll id links l = .ok new l') : Grows l l' := by
  induction links generalizing l new with
  | nil =>
    cases hrep
    exact refl_of Grows _
  | cons link links ih =>
    obtain ⟨r, l₁, hfirst, hrest⟩ := steps_of_ok hrep
    obtain ⟨more, l₂, hrest, hend⟩ := steps_of_ok hrest
    cases hend
    have hsound : l₁.Sound := ((KeepsSound.represent id link.1 link.2 l h).of_ok hfirst).1.sound
    exact trans_of Grows (grows_represent h hfirst) (ih hsound hrest)

/-- Expanding registers machines or none, and leaves the machine expanded. -/
theorem expand_ok {new : List MachineId} (h : l.Sound) (hexpand : expand id l = .ok new l') :
    Grows l l' ∧ ∀ e, Lexicon.entry? l' id = some e → e.expanded = true := by
  rw [expand_eq] at hexpand
  obtain ⟨name, l₁, hname, hget⟩ := steps_of_ok hexpand
  obtain ⟨-, rfl⟩ := ask_ok hname
  rw [get_bind] at hget
  split at hget
  · unfold expandActive at hget
    rw [get_bind] at hget
    cases hstatic : l₁.static? name with
    | none =>
      rw [hstatic] at hget
      obtain ⟨_, l₂, hset, hend⟩ := steps_of_ok hget
      cases hend
      obtain ⟨hquiet, hflag⟩ := setExpanded_ok hset
      exact ⟨hquiet.grows, hflag⟩
    | some definition =>
      rw [hstatic] at hget
      obtain ⟨m, l₂, hm, hrest⟩ := steps_of_ok hget
      obtain ⟨-, rfl⟩ := ask_ok hm
      obtain ⟨registered, l₃, hrep, hrest⟩ := steps_of_ok hrest
      obtain ⟨_, l₄, hset, hend⟩ := steps_of_ok hrest
      cases hend
      obtain ⟨hquiet, hflag⟩ := setExpanded_ok hset
      exact ⟨trans_of Grows (grows_representAll h hrep) hquiet.grows, hflag⟩
  · cases hget

/-! ## Activating -/

theorem promote_ok {r : Option MachineId} (h : l.Sound) (hpromote : promote name definition l = .ok r l') :
    l.order <+: l'.order ∧
      ((r = none ∧ l' = l) ∨ (l.isNameActive name = false → l.order.length < l'.order.length)) := by
  rw [promote_eq] at hpromote
  obtain ⟨m, l₁, hm, hrest⟩ := steps_of_ok hpromote
  obtain ⟨-, rfl⟩ := ask_ok hm
  split at hrest
  · cases hrest
    exact ⟨List.prefix_rfl, .inl ⟨rfl, rfl⟩⟩
  · obtain ⟨active, l₂, hask, hrest⟩ := steps_of_ok hrest
    obtain ⟨-, rfl⟩ := ask_ok hask
    cases active with
    | false =>
      cases hrest
      exact ⟨List.prefix_rfl, .inl ⟨rfl, rfl⟩⟩
    | true =>
      obtain ⟨id, l₃, hcreate, hrest⟩ := steps_of_ok hrest
      obtain ⟨_, l₄, hadd, hend⟩ := steps_of_ok hrest
      cases hend
      obtain ⟨hid, horder, hactive⟩ := create_ok h.graph.slots hcreate
      refine ⟨horder ▸ order_addActive hadd, .inr ?_⟩
      intro hname
      have hnil : l₃.entries name = [] :=
        (entries_congr hactive name).trans (isNameActive_eq_false_iff.1 hname)
      rw [order_addActive_one hadd hid hnil, horder, List.length_append]
      exact Nat.lt_succ_self _

theorem order_promoteAll {entries : List (String × MachineId)} {new : List MachineId} (h : l.Sound)
    (hpromote : promoteAll entries l = .ok new l') : l.order <+: l'.order := by
  induction entries generalizing l new with
  | nil =>
    cases hpromote
    exact List.prefix_rfl
  | cons entry entries ih =>
    obtain ⟨r, l₁, hfirst, hrest⟩ := steps_of_ok hpromote
    obtain ⟨more, l₂, hrest, hend⟩ := steps_of_ok hrest
    cases hend
    have hsound : l₁.Sound := ((KeepsSound.promote entry.1 entry.2 l h).of_ok hfirst).1.sound
    exact (promote_ok h hfirst).1.trans (ih hsound hrest)

theorem promoteAll_ok {entries : List (String × MachineId)} {new : List MachineId} (h : l.Sound)
    (hnames : ∀ e ∈ entries, l.isNameActive e.1 = false)
    (hpromote : promoteAll entries l = .ok new l') :
    (new = [] ∧ l' = l) ∨ l.order.length < l'.order.length := by
  induction entries generalizing l new with
  | nil =>
    cases hpromote
    exact .inl ⟨rfl, rfl⟩
  | cons entry entries ih =>
    obtain ⟨r, l₁, hfirst, hrest⟩ := steps_of_ok hpromote
    obtain ⟨more, l₂, hmore, hend⟩ := steps_of_ok hrest
    cases hend
    obtain ⟨hname, hnames⟩ := List.forall_mem_cons.1 hnames
    have hsound : l₁.Sound := ((KeepsSound.promote entry.1 entry.2 l h).of_ok hfirst).1.sound
    rcases (promote_ok h hfirst).2 with ⟨rfl, rfl⟩ | hlonger
    · rcases ih h hnames hmore with ⟨rfl, rfl⟩ | hlonger
      · exact .inl ⟨rfl, rfl⟩
      · exact .inr hlonger
    · have hle := (order_promoteAll hsound hmore).length_le
      exact .inr (Nat.lt_of_lt_of_le (hlonger hname) hle)

theorem activate_ok {new : List MachineId} (h : l.Sound) (hactivate : activate l = .ok new l') :
    (new = [] ∧ l' = l) ∨ l.order.length < l'.order.length := by
  refine promoteAll_ok h ?_ hactivate
  intro e he
  simpa using (List.mem_filter.1 he).2

end Lexicon

/-! ## Passes -/

namespace Activation

open Lexicon

variable {l l' : Lexicon}

theorem expandEach_ok {ids : List MachineId} {u : Unit} (h : l.Sound)
    (hexpand : expandEach ids l = .ok u l') :
    Grows l l' ∧ (l'.order.length ≤ l.order.length →
      ∀ id ∈ ids, ∀ e, Lexicon.entry? l' id = some e → e.expanded = true) := by
  induction ids generalizing l with
  | nil =>
    cases hexpand
    exact ⟨refl_of Grows _, fun _ id hid => (List.not_mem_nil hid).elim⟩
  | cons id ids ih =>
    obtain ⟨new, l₁, hfirst, hrest⟩ := steps_of_ok hexpand
    have hsound : l₁.Sound := ((KeepsSound.expand id l h).of_ok hfirst).1.sound
    obtain ⟨hgrows, hflag⟩ := expand_ok h hfirst
    obtain ⟨hgrows', hflags⟩ := ih hsound hrest
    refine ⟨trans_of Grows hgrows hgrows', ?_⟩
    intro hle
    have h₁ := hgrows.order.length_le
    have h₂ := hgrows'.order.length_le
    have hquiet : Quiet l₁ l' := hgrows'.quiet (by omega)
    exact List.forall_mem_cons.2 ⟨hquiet.expanded hflag, hflags (by omega)⟩

/-- A pass that registers nothing leaves no active machine unexpanded. -/
theorem expandPass_ok {n : Nat} (h : l.Sound) (hexpand : expandPass l = .ok n l') :
    Grows l l' ∧ (l'.order.length ≤ l.order.length → l'.unexpanded = []) := by
  obtain ⟨_, l₁, heach, hend⟩ := steps_of_ok (x := expandEach l.unexpanded) hexpand
  cases hend
  obtain ⟨hgrows, hflags⟩ := expandEach_ok h heach
  refine ⟨hgrows, ?_⟩
  intro hle
  have hquiet := hgrows.quiet hle
  unfold unexpanded expanded
  refine List.filter_eq_nil_iff.2 ?_
  intro id hid hflag
  obtain ⟨e, he, hunexpanded⟩ := (Option.any_eq_true _ _).1 hflag
  have hnot : e.expanded = false := of_decide_eq_true hunexpanded
  by_cases hpending : id ∈ l.unexpanded
  · -- it was expanded in the pass
    rw [hflags hle id hpending e he] at hnot
    cases hnot
  · -- it was expanded before
    have hbefore : ∀ e, Lexicon.entry? l id = some e → e.expanded = true := by
      intro e₀ he₀
      by_contra hfalse
      refine hpending (List.mem_filter.2 ⟨hquiet.order ▸ hid, ?_⟩)
      rw [he₀]
      simpa using hfalse
    rw [hquiet.expanded hbefore e he] at hnot
    cases hnot

end Activation

end MeaningGraph
