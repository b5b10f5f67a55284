/-
# First instances

Expanding and activating answer the machines that they register.  Each comes at the end of the order and is the first
instance of its name, so the answer tells what became of the working set:

    order                the order before, and the answer
    instances name       those before, and the machine of that name in the answer, if there is one

`Registers` says so, and is composed along a run as answers are: by `++`.
-/
import MeaningGraph.Proofs.Lexicon.Once

namespace MeaningGraph.Lexicon

variable {l l₁ l₂ l' : Lexicon} {id r : MachineId} {name : String} {new new' : List MachineId}

/-- The machines come into the working set, each as the first instance of its name. -/
structure Registers (l l' : Lexicon) (new : List MachineId) : Prop where
  order : l'.order = l.order ++ new
  instances : ∀ name, l'.instances name = l.instances name ++ new.filter (l'.graph.name? · = some name)
  unused : ∀ r ∈ new, ∃ name, l'.graph.name? r = some name ∧ l.instances name = []
  apart : (new.map l'.graph.name?).Nodup

theorem Registers.nil (hinstances : ∀ name, l'.instances name = l.instances name) (horder : l'.order = l.order) :
    Registers l l' [] where
  order := by simp [horder]
  instances name := by simp [hinstances]
  unused _ hr := (List.not_mem_nil hr).elim
  apart := List.nodup_nil

theorem Registers.one (hname : l.graph.name? id = some name) (hnone : l.instances name = []) :
    Registers l (register name id l) [id] where
  order := order_register_of_nil (instances_eq_nil_iff.1 hnone)
  instances other := by
    rw [instances_register_of_nil hnone, graph_register]
    by_cases heq : other = name
    · subst heq
      simp [hname, hnone]
    · simp [hname, heq, Ne.symm heq]
  unused r hr := by
    obtain rfl := List.mem_singleton.1 hr
    exact ⟨name, by rwa [graph_register], hnone⟩
  apart := List.nodup_singleton _

theorem Registers.firstInstance? (h : Registers l l' new) (hfirst : l.firstInstance? name = some id) :
    l'.firstInstance? name = some id := by
  rw [Lexicon.firstInstance?, h.instances, List.head?_append]
  rw [Lexicon.firstInstance?] at hfirst
  rw [hfirst]
  rfl

theorem Registers.instances_of_mem (h : Registers l l' new) (hr : r ∈ new) (hname : l'.graph.name? r = some name) :
    l.instances name = [] ∧ l'.instances name = [r] := by
  obtain ⟨other, hother, hnone⟩ := h.unused r hr
  obtain rfl : other = name := Option.some.inj (hother.symm.trans hname)
  refine ⟨hnone, ?_⟩
  rw [h.instances, hnone, List.nil_append]
  -- the names in the answer are different, so no other machine of it passes the filter
  have hmem : r ∈ new.filter (l'.graph.name? · = some other) := List.mem_filter.2 ⟨hr, decide_eq_true hname⟩
  have honly : ∀ x ∈ new.filter (l'.graph.name? · = some other), x = r := by
    intro x hx
    obtain ⟨hx, hxname⟩ := List.mem_filter.1 hx
    exact List.inj_on_of_nodup_map h.apart hx hr ((of_decide_eq_true hxname).trans hname.symm)
  have hnodup : (new.filter (l'.graph.name? · = some other)).Nodup := (h.apart.of_map _).filter _
  refine List.perm_singleton.1 ((List.perm_ext_iff_of_nodup hnodup (List.nodup_singleton r)).2 fun x => ?_)
  rw [List.mem_singleton]
  exact ⟨honly x, fun heq => heq ▸ hmem⟩

theorem Registers.exists_mem (h : Registers l l' new) (hnone : l.instances name = [])
    (hsome : l'.instances name ≠ []) : ∃ r ∈ new, l'.graph.name? r = some name := by
  rw [h.instances, hnone, List.nil_append] at hsome
  obtain ⟨r, hr⟩ := List.exists_mem_of_ne_nil _ hsome
  obtain ⟨hr, hname⟩ := List.mem_filter.1 hr
  exact ⟨r, hr, of_decide_eq_true hname⟩

/-- Answers are put together, as long as no machine loses its name on the way. -/
theorem Registers.trans (h : Registers l l₁ new) (h' : Registers l₁ l₂ new')
    (hnames : ∀ r name, l₁.graph.name? r = some name → l₂.graph.name? r = some name) :
    Registers l l₂ (new ++ new') := by
  have hsame : ∀ r ∈ new, l₂.graph.name? r = l₁.graph.name? r := by
    intro r hr
    obtain ⟨name, hname, -⟩ := h.unused r hr
    rw [hname, hnames r name hname]
  refine ⟨?_, fun name => ?_, fun r hr => ?_, ?_⟩
  · rw [h'.order, h.order, List.append_assoc]
  · have hfirst : new.filter (l₂.graph.name? · = some name) = new.filter (l₁.graph.name? · = some name) :=
      List.filter_congr fun r hr => by rw [hsame r hr]
    rw [h'.instances, h.instances, List.filter_append, hfirst, List.append_assoc]
  · rcases List.mem_append.1 hr with hr | hr
    · obtain ⟨name, hname, hnone⟩ := h.unused r hr
      exact ⟨name, hnames r name hname, hnone⟩
    · obtain ⟨name, hname, hnone⟩ := h'.unused r hr
      rw [h.instances] at hnone
      exact ⟨name, hname, (List.append_eq_nil_iff.1 hnone).1⟩
  · rw [List.map_append, List.nodup_append, List.map_congr_left hsame]
    refine ⟨h.apart, h'.apart, ?_⟩
    -- a name of the first answer has an instance when the second begins
    rintro _ hfirst _ hsecond rfl
    obtain ⟨r, hr, hname⟩ := List.mem_map.1 hfirst
    obtain ⟨s, hs, hsname⟩ := List.mem_map.1 hsecond
    obtain ⟨name, hunused, hnone⟩ := h'.unused s hs
    have hinstances := (h.instances_of_mem hr (hname.trans (hsname.symm.trans hunused))).2
    rw [hnone] at hinstances
    cases hinstances

end MeaningGraph.Lexicon
