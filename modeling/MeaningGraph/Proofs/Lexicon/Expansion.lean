/-
# Expanding realises a definition, once

    definition ──i──▶ source            machine ──i──▶ the first instance of the name of the source

A child of the definition is represented by an instance that is there, by a child that the machine has already, or by
a copy; and what stands for one child is an instance when the next one is looked at.  Whichever it is, two things are
left behind, and what a run leaves is what its steps leave, put together (`Represents.trans`):

| | |
| :-- | :-- |
| `Graph.GrowsAt` | the machine has more children behind its own; the others are as they were |
| `Registers` | what was registered is the first instance of its name |

Afterwards every child of the definition has a representative, which is an instance of its name and is held.  To
represent it again is to append what is held (`represent_again`), so that a second expansion changes nothing, be it
that names occur several times in the definition or that it has its own name among them.
-/
import MeaningGraph.Proofs.Lexicon.Entering
import MeaningGraph.Proofs.Lexicon.Registers

namespace MeaningGraph

open Outcome

/-! ## One machine grows -/

namespace Graph

variable {g g' g'' : Graph} {id x c : MachineId} {i : Nat} {name : String}

/-- One machine has more children, behind those that it had.  The others are as they were, but for what holds
them. -/
structure GrowsAt (id : MachineId) (g g' : Graph) : Prop where
  own : ∀ m, g.find? id = some m → ∃ m', g'.find? id = some m' ∧
    m'.name = m.name ∧ m'.control = m.control ∧ ∀ i, m.part i <+: m'.part i
  other : ∀ x m, x ≠ id → g.find? x = some m → ∃ parents, g'.find? x = some { m with parents }

theorem GrowsAt.of_find? (h : ∀ x m, g.find? x = some m → g'.find? x = some m) : GrowsAt id g g' where
  own m hm := ⟨m, h id m hm, rfl, rfl, fun _ => List.prefix_rfl⟩
  other x m _ hm := ⟨m.parents, h x m hm⟩

theorem GrowsAt.trans (h : GrowsAt id g g') (h' : GrowsAt id g' g'') : GrowsAt id g g'' where
  own m hm := by
    obtain ⟨m₁, hm₁, hname, hcontrol, hparts⟩ := h.own m hm
    obtain ⟨m₂, hm₂, hname', hcontrol', hparts'⟩ := h'.own m₁ hm₁
    exact ⟨m₂, hm₂, hname'.trans hname, hcontrol'.trans hcontrol, fun i => (hparts i).trans (hparts' i)⟩
  other x m hx hm := by
    obtain ⟨parents, hm₁⟩ := h.other x m hx hm
    exact h'.other x { m with parents } hx hm₁

theorem GrowsAt.link (g : Graph) (id c : MachineId) (i : Nat) : GrowsAt id g (g.link id c i) where
  own m hm := by
    have hmid : (g.update id (·.addChild c i)).find? id = some (m.addChild c i) := by
      rw [find?_update, if_pos rfl, hm]
      rfl
    have hparts : ∀ j, m.part j <+: (m.addChild c i).part j := by
      intro j
      rw [Machine.part_addChild]
      split
      · rename_i heq
        exact heq ▸ List.prefix_append ..
      · exact List.prefix_rfl
    rw [Graph.link, find?_update]
    split
    · rename_i heq
      subst heq
      rw [hmid]
      exact ⟨_, rfl, rfl, rfl, hparts⟩
    · exact ⟨_, hmid, rfl, rfl, hparts⟩
  other x m hx hm := by
    have hmid : (g.update id (·.addChild c i)).find? x = some m := by
      rwa [find?_update, if_neg hx]
    rw [Graph.link, find?_update]
    split
    · rename_i heq
      subst heq
      rw [hmid]
      exact ⟨_, rfl⟩
    · exact ⟨m.parents, hmid⟩

theorem GrowsAt.append (h : g.append id c i = .ok g') : GrowsAt id g g' := by
  obtain ⟨-, -, ⟨-, rfl⟩ | ⟨-, rfl⟩⟩ := append_cases h
  · exact .of_find? fun _ _ hm => hm
  · exact .link g id c i

theorem GrowsAt.name? (h : GrowsAt id g g') (hname : g.name? x = some name) : g'.name? x = some name := by
  obtain ⟨m, hm, rfl⟩ := Option.map_eq_some_iff.1 hname
  by_cases hx : x = id
  · subst hx
    obtain ⟨m', hm', hsame, -⟩ := h.own m hm
    exact hsame ▸ name?_of_find? hm'
  · obtain ⟨parents, hm'⟩ := h.other x m hx hm
    rw [Graph.name?, hm']
    rfl

theorem GrowsAt.holds (h : GrowsAt id g g') (hold : g.Holds x i c) : g'.Holds x i c := by
  obtain ⟨m, hm, hc⟩ := hold
  by_cases hx : x = id
  · subst hx
    obtain ⟨m', hm', -, -, hparts⟩ := h.own m hm
    exact ⟨m', hm', (hparts i).subset hc⟩
  · obtain ⟨parents, hm'⟩ := h.other x m hx hm
    exact ⟨_, hm', hc⟩

end Graph

open MeaningGraph.Graph (GrowsAt)

namespace Lexicon

variable {l l₁ l₂ l' : Lexicon} {id source definition target : MachineId} {name : String} {p : Nat}
  {links links' : List (Nat × MachineId)} {new new' : List MachineId}

/-! ## Representing -/

/-- The links are represented at the machine: it holds the first instances of their names and has gained no other
child, and what was registered for that has the names of the links. -/
structure Represents (id : MachineId) (links : List (Nat × MachineId)) (l l' : Lexicon) (new : List MachineId) :
    Prop where
  grows : GrowsAt id l.graph l'.graph
  registers : Registers l l' new
  held : ∀ link ∈ links, ∃ name target, l.graph.name? link.2 = some name ∧
    l'.firstInstance? name = some target ∧ l'.graph.Holds id link.1 target
  gained : ∀ i target, l'.graph.Holds id i target → l.graph.Holds id i target ∨ ∃ link ∈ links, ∃ name,
    link.1 = i ∧ l.graph.name? link.2 = some name ∧ l'.firstInstance? name = some target
  named : ∀ r ∈ new, ∃ link ∈ links, l'.graph.name? r = l.graph.name? link.2

theorem Represents.nil (hgraph : l'.graph = l.graph) (hinstances : ∀ name, l'.instances name = l.instances name)
    (horder : l'.order = l.order) : Represents id [] l l' [] where
  grows := .of_find? fun _ _ hm => hgraph ▸ hm
  registers := .nil hinstances horder
  held _ hlink := (List.not_mem_nil hlink).elim
  gained _ _ hold := .inl (hgraph ▸ hold)
  named _ hr := (List.not_mem_nil hr).elim

theorem Represents.trans (h : Represents id links l l₁ new) (h' : Represents id links' l₁ l₂ new')
    (hlive : ∀ link ∈ links ++ links', l.graph.contains link.2 = true) :
    Represents id (links ++ links') l l₂ (new ++ new') := by
  -- a live machine has the same name when the second part begins
  have hname : ∀ link ∈ links ++ links', l₁.graph.name? link.2 = l.graph.name? link.2 := by
    intro link hlink
    obtain ⟨m, hm⟩ := Graph.contains_iff.1 (hlive link hlink)
    rw [Graph.name?_of_find? hm, h.grows.name? (Graph.name?_of_find? hm)]
  have hlater : ∀ r name, l₁.graph.name? r = some name → l₂.graph.name? r = some name := fun _ _ => h'.grows.name?
  refine ⟨h.grows.trans h'.grows, h.registers.trans h'.registers hlater, ?_, ?_, ?_⟩
  · intro link hlink
    rcases List.mem_append.1 hlink with hmem | hmem
    · obtain ⟨name, target, hsource, hfirst, hold⟩ := h.held link hmem
      exact ⟨name, target, hsource, h'.registers.firstInstance? hfirst, h'.grows.holds hold⟩
    · obtain ⟨name, target, hsource, hfirst, hold⟩ := h'.held link hmem
      exact ⟨name, target, (hname link hlink).symm.trans hsource, hfirst, hold⟩
  · intro i target hold
    rcases h'.gained i target hold with hold | ⟨link, hlink, name, hi, hsource, hfirst⟩
    · rcases h.gained i target hold with hold | ⟨link, hlink, name, hi, hsource, hfirst⟩
      · exact .inl hold
      · exact .inr ⟨link, List.mem_append_left _ hlink, name, hi, hsource, h'.registers.firstInstance? hfirst⟩
    · have hmem := List.mem_append_right links hlink
      exact .inr ⟨link, hmem, name, hi, (hname link hmem).symm.trans hsource, hfirst⟩
  · intro r hr
    rcases List.mem_append.1 hr with hr | hr
    · obtain ⟨link, hlink, hsame⟩ := h.named r hr
      have hmem := List.mem_append_left links' hlink
      obtain ⟨name, hunused, -⟩ := h.registers.unused r hr
      exact ⟨link, hmem, (hlater r name hunused).trans (hunused.symm.trans hsame)⟩
    · obtain ⟨link, hlink, hsame⟩ := h'.named r hr
      have hmem := List.mem_append_right links hlink
      exact ⟨link, hmem, hsame.trans (hname link hmem)⟩

/-- A link is represented when the first instance of its name is appended, whatever was registered before. -/
theorem Represents.append {g : Graph} (hgrows : GrowsAt id l.graph l₁.graph) (hregisters : Registers l l₁ new)
    (hkept : ∀ i c, l₁.graph.Holds id i c → l.graph.Holds id i c)
    (hsource : l.graph.name? source = some name) (hnew : ∀ r ∈ new, l₁.graph.name? r = some name)
    (hfirst : l₁.firstInstance? name = some target) (happend : l₁.graph.append id target p = .ok g) :
    Represents id [(p, source)] l { l₁ with graph := g } new := by
  have hgrown : GrowsAt id l₁.graph g := .append happend
  have hlink : Registers l₁ { l₁ with graph := g } [] := .nil (fun _ => rfl) rfl
  have hall := hregisters.trans hlink fun r name => hgrown.name?
  rw [List.append_nil] at hall
  refine ⟨hgrows.trans hgrown, hall, ?_, ?_, ?_⟩
  · intro link hmem
    obtain rfl := List.mem_singleton.1 hmem
    exact ⟨name, target, hsource, hfirst, (Graph.holds_append happend).2 (.inr ⟨rfl, rfl, rfl⟩)⟩
  · intro i c hold
    rcases (Graph.holds_append happend).1 hold with hold | ⟨-, rfl, rfl⟩
    · exact .inl (hkept i c hold)
    · exact .inr ⟨(i, source), List.mem_singleton_self _, name, rfl, hsource, hfirst⟩
  · intro r hr
    exact ⟨(p, source), List.mem_singleton_self _, (hgrown.name? (hnew r hr)).trans hsource.symm⟩

theorem find?_of_chooseTarget (hl : l.Sound) (hchoose : chooseTarget id p source name l = .ok target l') :
    ∀ x, l.graph.contains x = true → l'.graph.find? x = l.graph.find? x := by
  intro x hx
  obtain ⟨found, l₁, hchild, hrest⟩ := steps_of_ok hchoose
  obtain ⟨-, rfl⟩ := ask_ok hchild
  cases found with
  | some child =>
    cases hrest
    rfl
  | none =>
    obtain ⟨g, hcopy, rfl⟩ := grow_ok hrest
    exact (hl.graph.deepCopy_cases hcopy).find?_old hx

theorem represents_represent {r : Option MachineId} (hl : l.Sound) (hid : l.graph.contains id = true)
    (hrep : represent id p source l = .ok r l') : Represents id [(p, source)] l l' r.toList := by
  rw [represent_eq] at hrep
  obtain ⟨name, l₁, hname, hget⟩ := steps_of_ok hrep
  obtain ⟨hname, rfl⟩ := ask_ok hname
  rw [get_bind] at hget
  have hsource := Graph.name?_of_name hname
  cases hfirst : l₁.firstInstance? name with
  | some target =>
    rw [hfirst] at hget
    obtain ⟨_, l₂, hchange, hend⟩ := steps_of_ok hget
    cases hend
    obtain ⟨g, happend, rfl⟩ := changeGraph_ok hchange
    exact .append (.of_find? fun _ _ hm => hm) (.nil (fun _ => rfl) rfl) (fun _ _ hold => hold) hsource
      (fun _ hr => (List.not_mem_nil hr).elim) hfirst happend
  | none =>
    rw [hfirst] at hget
    obtain ⟨target, l₂, hchoose, hlink⟩ := steps_of_ok hget
    obtain ⟨htarget, horder, hactive⟩ := chooseTarget_ok hl hsource hchoose
    have hfind := find?_of_chooseTarget hl hchoose
    have hsame : ∀ name, l₂.instances name = l₁.instances name := fun name =>
      congrArg (List.map _) (entries_congr hactive name)
    have hnone : l₂.instances name = [] :=
      (hsame name).trans (instances_eq_nil_iff.2 (entries_eq_nil_of_firstInstance? hfirst))
    rw [linkTarget, bind_eq_of_ok (addActive_one htarget)] at hlink
    obtain ⟨_, l₄, hchange, hend⟩ := steps_of_ok hlink
    cases hend
    obtain ⟨g, happend, rfl⟩ := changeGraph_ok hchange
    have hone : Registers l₂ (register name target l₂) [target] := .one htarget hnone
    have hregisters : Registers l₁ (register name target l₂) [target] :=
      (Registers.nil hsame horder).trans hone fun r other hr => (graph_register name target l₂).symm ▸ hr
    refine .append (.of_find? fun x m hm => ?_) hregisters (fun i c hold => ?_) hsource (fun r hr => ?_) ?_ happend
    · rw [graph_register, hfind x (Graph.contains_of_find? hm), hm]
    · rw [graph_register] at hold
      obtain ⟨m, hm, hc⟩ := hold
      exact ⟨m, (hfind id hid).symm.trans hm, hc⟩
    · obtain rfl := List.mem_singleton.1 hr
      rwa [graph_register]
    · show (register name target l₂).firstInstance? name = some target
      rw [firstInstance?, instances_register_of_nil hnone, if_pos rfl]
      rfl

theorem represents_representAll (hl : l.Sound) (hid : l.graph.contains id = true)
    (hlive : ∀ link ∈ links, l.graph.contains link.2 = true) (hrep : representAll id links l = .ok new l') :
    Represents id links l l' new := by
  induction links generalizing l new with
  | nil =>
    cases hrep
    exact .nil rfl (fun _ => rfl) rfl
  | cons link links ih =>
    obtain ⟨r, l₁, hfirst, hrest⟩ := steps_of_ok hrep
    obtain ⟨more, l₂, hrest, hend⟩ := steps_of_ok hrest
    cases hend
    have hone := represents_represent hl hid hfirst
    have hgains : Gains l l₁ := (gains_represent id link.1 link.2).of_ok hfirst
    have hstill : ∀ x, l.graph.contains x = true → l₁.graph.contains x = true := fun _ hx =>
      hgains.changes.contains hl hx
    have hmore := ih (hgains.changes.evolves hl).sound (hstill id hid)
      (fun other hother => hstill other.2 (hlive other (List.mem_cons_of_mem link hother))) hrest
    exact hone.trans hmore hlive

/-! ## Representing again -/

theorem represent_again (hl : l.Sound) (hsource : l.graph.name? source = some name)
    (hfirst : l.firstInstance? name = some target) (hold : l.graph.Holds id p target) :
    represent id p source l = .ok none l := by
  obtain ⟨m, hm, rfl⟩ := Option.map_eq_some_iff.1 hsource
  obtain ⟨own, hown, hmem⟩ := hold
  have happend : l.graph.append id target p = .ok l.graph := by
    rw [Graph.append_eq hown (hl.graph.contains_child ⟨own, hown, hmem⟩), if_pos hmem]
  rw [represent_eq, ask_bind (Graph.name_of_find? hm), get_bind, hfirst]
  exact bind_eq_of_ok (changeGraph_of_ok happend)

theorem representAll_again (hl : l.Sound) (hheld : ∀ link ∈ links, ∃ name target,
    l.graph.name? link.2 = some name ∧ l.firstInstance? name = some target ∧ l.graph.Holds id link.1 target) :
    representAll id links l = .ok [] l := by
  induction links with
  | nil => rfl
  | cons link links ih =>
    obtain ⟨⟨name, target, hsource, hfirst, hold⟩, hrest⟩ := List.forall_mem_cons.1 hheld
    rw [representAll, bind_eq_of_ok (represent_again hl hsource hfirst hold), bind_eq_of_ok (ih hrest)]
    rfl

theorem flagged_of_setExpanded {u : Unit} (h : setExpanded id l = .ok u l') : l'.Flagged id := by
  obtain ⟨name, hname, hentry, rfl⟩ := setExpanded_cases h
  refine ⟨name, Graph.name?_of_name hname, ?_⟩
  rw [entries_insert l name _ l.order, if_pos rfl]
  exact ActiveEntry.mem_map_expand_iff.2 (.inr ⟨rfl, hentry⟩)

/-- No name lists a machine twice, so the entry that is flagged is the only one to flag. -/
theorem Views.setExpanded_again (h : l.Views) (hid : l.Flagged id) : setExpanded id l = .ok () l := by
  obtain ⟨name, hname, he⟩ := hid
  obtain ⟨m, hm, rfl⟩ := Option.map_eq_some_iff.1 hname
  have hany : (l.entries m.name).any (·.machine = id) = true := List.any_eq_true.2 ⟨_, he, decide_eq_true rfl⟩
  have hmap : (l.entries m.name).map (ActiveEntry.expand id) = l.entries m.name := by
    refine (List.map_congr_left fun e he' => ?_).trans (List.map_id _)
    show e.expand id = e
    by_cases heq : e.machine = id
    · obtain rfl : e = ⟨id, true⟩ := List.inj_on_of_nodup_map (h.nodup_instances m.name) he' he heq
      exact if_pos rfl
    · exact if_neg heq
  have hfind : l.active.find? m.name = some (l.entries m.name) := by
    cases hfind : l.active.find? m.name with
    | some es => rw [entries, hfind, Option.getD_some]
    | none =>
      rw [entries, hfind] at he
      exact (List.not_mem_nil he).elim
  rw [setExpanded, ask_bind (Graph.name_of_find? hm), get_bind, if_pos hany, hmap, h.ordered.insert_of_find? hfind]
  rfl

/-! ## Expanding -/

theorem InUse.isExpanded_eq_false (h : l.InUse) (hid : id ∈ l.order) (hmarked : ¬ l.Marked id) :
    l.isExpanded id = .ok false := by
  have hentry : (l.entry? id).any (·.expanded = false) = true := h.entry?_iff.2 ⟨hid, by simp [hmarked]⟩
  obtain ⟨e, he, hflag⟩ := (Option.any_eq_true _ _).1 hentry
  rw [isExpanded, he]
  exact congrArg Except.ok (of_decide_eq_true hflag)

/-- An expansion by a definition represents the children of the definition, and sets the flag. -/
theorem expand_cases {m : Machine} (hname : l.graph.name? id = some name)
    (hdefinition : l.static? name = some definition) (hm : l.graph.find? definition = some m)
    (hexpand : expand id l = .ok new l') :
    ∃ l₁, representAll id (Graph.numberedLinks m) l = .ok new l₁ ∧ setExpanded id l₁ = .ok () l' := by
  obtain ⟨own, hown, rfl⟩ := Option.map_eq_some_iff.1 hname
  rw [expand_eq, ask_bind (Graph.name_of_find? hown), get_bind] at hexpand
  split at hexpand
  · rw [expandActive, get_bind, hdefinition] at hexpand
    simp only at hexpand
    rw [ask_bind (Graph.get_of_find? hm)] at hexpand
    obtain ⟨registered, l₁, hrep, hrest⟩ := steps_of_ok hexpand
    obtain ⟨_, l₂, hset, hend⟩ := steps_of_ok hrest
    cases hend
    exact ⟨l₁, hrep, hset⟩
  · cases hexpand

theorem represents_expand {m : Machine} (hl : l.Sound) (hname : l.graph.name? id = some name)
    (hdefinition : l.static? name = some definition) (hm : l.graph.find? definition = some m)
    (hexpand : expand id l = .ok new l') :
    Represents id (Graph.numberedLinks m) l l' new ∧ l'.Flagged id := by
  obtain ⟨l₁, hrep, hset⟩ := expand_cases hname hdefinition hm hexpand
  have hchildren : ∀ link ∈ Graph.numberedLinks m, l.graph.contains link.2 = true := fun link hlink =>
    hl.graph.contains_child ⟨m, hm, Graph.mem_numberedLinks.1 hlink⟩
  have hfirst := represents_representAll hl (Graph.contains_of_name? hname) hchildren hrep
  have hidle : Represents id [] l₁ l' [] := by
    obtain ⟨other, -, -, rfl⟩ := setExpanded_cases hset
    exact .nil rfl (fun name => instances_flag other id l₁ name) rfl
  have hall := hfirst.trans hidle (by rwa [List.append_nil])
  rw [List.append_nil, List.append_nil] at hall
  exact ⟨hall, flagged_of_setExpanded hset⟩

/-- An expanded machine that holds the first instances of the names of its definition's children is as it would be
after another expansion. -/
theorem expand_again {m : Machine} (h : l.InUse) (hid : l.Flagged id) (hname : l.graph.name? id = some name)
    (hdefinition : l.static? name = some definition) (hm : l.graph.find? definition = some m)
    (hheld : ∀ link ∈ Graph.numberedLinks m, ∃ name target,
      l.graph.name? link.2 = some name ∧ l.firstInstance? name = some target ∧ l.graph.Holds id link.1 target) :
    expand id l = .ok [] l := by
  obtain ⟨own, hown, rfl⟩ := Option.map_eq_some_iff.1 hname
  rw [expand_eq, ask_bind (Graph.name_of_find? hown), get_bind, if_pos hid.isActive, expandActive, get_bind,
    hdefinition]
  simp only
  rw [ask_bind (Graph.get_of_find? hm), bind_eq_of_ok (representAll_again h.sound hheld),
    bind_eq_of_ok (h.views.setExpanded_again hid)]
  rfl

/-- The machine is expanded: for every child of its definition it holds the first instance of the name, behind the
children that it had.  What was registered for that is one unexpanded instance for each name of a child that had no
instance.  All else is as it was, but for what holds it. -/
structure Realises (id definition : MachineId) (l l' : Lexicon) (new : List MachineId) : Prop where
  expanded : l'.isExpanded id = .ok true
  held : ∀ i s, l.graph.Holds definition i s → ∃ name target, l.graph.name? s = some name ∧
    l'.firstInstance? name = some target ∧ l'.graph.Holds id i target
  gained : ∀ i target, l'.graph.Holds id i target → l.graph.Holds id i target ∨
    ∃ s name, l.graph.Holds definition i s ∧ l.graph.name? s = some name ∧ l'.firstInstance? name = some target
  order : l'.order = l.order ++ new
  nodup : new.Nodup
  fresh : ∀ r ∈ new, l.isActive r = false ∧ l'.isActive r = true ∧ l'.isExpanded r = .ok false
  names : ∃ names : List String, new.map l'.graph.name? = names.map some ∧ names.Nodup ∧ ∀ name, name ∈ names ↔
    l.isNameActive name = false ∧ ∃ i s, l.graph.Holds definition i s ∧ l.graph.name? s = some name
  own : ∀ m, l.graph.find? id = some m → ∃ m', l'.graph.find? id = some m' ∧
    m'.name = m.name ∧ m'.control = m.control ∧ ∀ i, m.part i <+: m'.part i
  other : ∀ x m, x ≠ id → l.graph.find? x = some m → ∃ parents, l'.graph.find? x = some { m with parents }

theorem Represents.exists_names (h : Represents id links l l' new) :
    ∃ names : List String, new.map l'.graph.name? = names.map some ∧ names.Nodup ∧ ∀ name, name ∈ names ↔
      l.isNameActive name = false ∧ ∃ link ∈ links, l.graph.name? link.2 = some name := by
  have hnames : new.map l'.graph.name? = (new.filterMap l'.graph.name?).map some := by
    rw [List.map_filterMap, ← List.filterMap_eq_map]
    refine List.filterMap_congr fun r hr => ?_
    obtain ⟨name, hname, -⟩ := h.registers.unused r hr
    rw [Function.comp_apply, hname]
    rfl
  refine ⟨_, hnames, List.Nodup.of_map some (hnames ▸ h.registers.apart), fun name => ?_⟩
  rw [List.mem_filterMap, isNameActive_eq_false_iff, ← instances_eq_nil_iff]
  constructor
  · rintro ⟨r, hr, hname⟩
    obtain ⟨link, hlink, hsame⟩ := h.named r hr
    exact ⟨(h.registers.instances_of_mem hr hname).1, link, hlink, hsame.symm.trans hname⟩
  · rintro ⟨hnone, link, hlink, hname⟩
    obtain ⟨other, target, hother, hfirst, -⟩ := h.held link hlink
    obtain rfl : other = name := Option.some.inj (hother.symm.trans hname)
    refine h.registers.exists_mem hnone fun hnil => ?_
    rw [firstInstance?, hnil] at hfirst
    cases hfirst

/-- What an expansion registers comes once, was not active, and is active and not expanded: it was not in the order,
and only the machine that is expanded is flagged. -/
theorem fresh_of_expand (h : l.Reachable) (horder : id ∈ l.order) (hexpand : expand id l = .ok new l')
    (hinUse : l'.InUse) (hnew : l'.order = l.order ++ new) :
    new.Nodup ∧ ∀ r ∈ new, l.isActive r = false ∧ l'.isActive r = true ∧ l'.isExpanded r = .ok false := by
  have hnodup : (l.order ++ new).Nodup := hnew ▸ hinUse.views.nodup
  have hfresh : ∀ r ∈ new, r ∉ l.order := fun r hr hmem => (List.nodup_append.1 hnodup).2.2 r hmem r hr rfl
  refine ⟨(List.nodup_append.1 hnodup).2.1, fun r hr => ?_⟩
  have hr' : r ∈ l'.order := hnew ▸ List.mem_append_right _ hr
  refine ⟨?_, hinUse.isActive hr', hinUse.isExpanded_eq_false hr' fun hmarked => ?_⟩
  · refine Bool.eq_false_iff.2 fun hbefore => hfresh r hr ?_
    obtain ⟨other, hother, -⟩ := isActive_iff.1 hbefore
    exact (h.listed.mem_order_iff h.filed (Graph.contains_of_name? hother)).2 hbefore
  · rcases (marked_expand hexpand).1 hmarked with hmarked | rfl
    · exact hfresh r hr (h.views.mem_order_of_marked hmarked)
    · exact hfresh r hr horder

/-- In every lexicon that can be reached, while active machines and definitions are live, an active machine that has
another machine for its definition can be expanded; what comes of it is told by `Realises`; and to expand it once more
answers nothing and changes nothing. -/
theorem expand_realises (h : l.Reachable) (hlive : ∀ id ∈ l.order, l.graph.contains id = true)
    (hstatics : ∀ id ∈ l.statics.values, l.graph.contains id = true) (hactive : l.isActive id = true)
    (hname : l.graph.name? id = some name) (hdefinition : l.static? name = some definition)
    (hne : definition ≠ id) :
    ∃ new l', expand id l = .ok new l' ∧ Realises id definition l l' new ∧ expand id l' = .ok [] l' := by
  have hready : l.Ready :=
    ⟨h.sound, h.filed, h.listed, h.orderedParents, h.sound.standing_iff.2 hstatics, hlive⟩
  have hid := Graph.contains_of_name? hname
  have horder : id ∈ l.order := (h.listed.mem_order_iff h.filed hid).2 hactive
  obtain ⟨m, hm⟩ := Graph.contains_iff.1 (hready.contains_static? hdefinition)
  obtain ⟨new, l', hexpand, hgains, -⟩ := hready.attains_expand horder
  obtain ⟨hrepresents, hexpanded⟩ := represents_expand h.sound hname hdefinition hm hexpand
  have hinUse : l'.InUse := hgains.inUse (h.inUse hlive)
  have hlinks : ∀ i s, l.graph.Holds definition i s ↔ (i, s) ∈ Graph.numberedLinks m := fun i s => by
    rw [Graph.holds_iff_of_find? hm, Graph.mem_numberedLinks]
  obtain ⟨hdistinct, hfresh⟩ := fresh_of_expand h horder hexpand hinUse hrepresents.registers.order
  refine ⟨new, l', hexpand, ?_, ?_⟩
  · refine ⟨hinUse.views.isExpanded_iff.2 hexpanded, ?_, ?_, hrepresents.registers.order, hdistinct, hfresh, ?_,
      hrepresents.grows.own, hrepresents.grows.other⟩
    · exact fun i s hold => hrepresents.held (i, s) ((hlinks i s).1 hold)
    · intro i target hold
      refine (hrepresents.gained i target hold).imp_right ?_
      rintro ⟨⟨_, s⟩, hlink, name, rfl, hsource, hfirst⟩
      exact ⟨s, name, (hlinks _ s).2 hlink, hsource, hfirst⟩
    · obtain ⟨names, hmap, hapart, hmem⟩ := hrepresents.exists_names
      refine ⟨names, hmap, hapart, fun name => (hmem name).trans (and_congr_right fun _ => ?_)⟩
      simp only [hlinks, Prod.exists]
  · obtain ⟨parents, hm'⟩ := hrepresents.grows.other definition m hne hm
    have hstatic' : l'.static? name = some definition := by
      have hdraws := DrawsOnly.expand id l h.sound
      rw [hexpand] at hdraws
      rw [static?, show l'.statics = l.statics from hdraws.statics]
      exact hdefinition
    refine expand_again hinUse hexpanded (hrepresents.grows.name? hname) hstatic' hm' fun link hlink => ?_
    obtain ⟨name, target, hsource, hfirst, hold⟩ := hrepresents.held link hlink
    exact ⟨name, target, hrepresents.grows.name? hsource, hfirst, hold⟩

/-- The definition of giving holds itself, an agent and two things; an instance of giving and one of an agent are
active. -/
def gift : Lexicon :=
  empty.replay [.create "give" none, .create "agent" none, .create "thing" none, .create "thing" none,
    .append ⟨0, 1⟩ ⟨0, 1⟩ 0, .append ⟨0, 1⟩ ⟨1, 1⟩ 1, .append ⟨0, 1⟩ ⟨2, 1⟩ 2, .append ⟨0, 1⟩ ⟨3, 1⟩ 2,
    .addStatic [⟨0, 1⟩], .create "give" none, .create "agent" none, .addActive [⟨4, 1⟩, ⟨5, 1⟩]]

/-- The definition has its own name among its children; it holds two things, and no thing is active yet. -/
theorem expand_realises_gift :
    gift.Reachable ∧ ∃ new l', expand ⟨4, 1⟩ gift = .ok new l' ∧ Realises ⟨4, 1⟩ ⟨0, 1⟩ gift l' new ∧
      expand ⟨4, 1⟩ l' = .ok [] l' := by
  have hreach : gift.Reachable := ⟨_, rfl⟩
  exact ⟨hreach, expand_realises hreach (by decide) (by decide) (by decide) rfl rfl (by decide)⟩

end Lexicon

end MeaningGraph
