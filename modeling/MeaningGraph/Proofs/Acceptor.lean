/-
# What an automaton accepts

A sequence of machines leads from a state to another when there is an edge for each machine, which the machine
opens, and each edge starts where the one before it ends.

    scan from the active states is true  ↔  the sequence leads from an active state to a final one

The active states after a machine are those that it leads to from the active states before, so the set of them
stands for all the ways through the automaton at once; where none is left the reading stops, as there is no
way on.

Of a machine an automaton sees the name and the control, and nothing else.
-/
import MeaningGraph.Acceptor

namespace MeaningGraph

/-! ## What a machine shows an automaton -/

section Reading

variable {g₁ g₂ : Graph} {a b : MachineId}

mutual

/-- A matcher reads no more than the name and the control. -/
theorem Matcher.accepts_congr (hname : g₁.name? a = g₂.name? b)
    (hcontrol : g₁.control? a = g₂.control? b) : ∀ m : Matcher, m.accepts g₁ a = m.accepts g₂ b
  | .printname p => by rw [Matcher.accepts, Matcher.accepts, hname]
  | .pos p => by rw [Matcher.accepts, Matcher.accepts, hcontrol]
  | .concept => by rw [Matcher.accepts, Matcher.accepts, hcontrol]
  | .kind kinds => by rw [Matcher.accepts, Matcher.accepts, hcontrol]
  | .member names => by rw [Matcher.accepts, Matcher.accepts, hname]
  | .negate m => by rw [Matcher.accepts, Matcher.accepts, Matcher.accepts_congr hname hcontrol m]
  | .all ms => by rw [Matcher.accepts, Matcher.accepts, Matcher.acceptsAll_congr hname hcontrol ms]
  | .any ms => by rw [Matcher.accepts, Matcher.accepts, Matcher.acceptsAny_congr hname hcontrol ms]

theorem Matcher.acceptsAll_congr (hname : g₁.name? a = g₂.name? b)
    (hcontrol : g₁.control? a = g₂.control? b) :
    ∀ ms : List Matcher, Matcher.acceptsAll g₁ a ms = Matcher.acceptsAll g₂ b ms
  | [] => rfl
  | m :: ms => by
    rw [Matcher.acceptsAll, Matcher.acceptsAll, Matcher.accepts_congr hname hcontrol m,
      Matcher.acceptsAll_congr hname hcontrol ms]

theorem Matcher.acceptsAny_congr (hname : g₁.name? a = g₂.name? b)
    (hcontrol : g₁.control? a = g₂.control? b) :
    ∀ ms : List Matcher, Matcher.acceptsAny g₁ a ms = Matcher.acceptsAny g₂ b ms
  | [] => rfl
  | m :: ms => by
    rw [Matcher.acceptsAny, Matcher.acceptsAny, Matcher.accepts_congr hname hcontrol m,
      Matcher.acceptsAny_congr hname hcontrol ms]

end

theorem Acceptor.opened_congr (hname : g₁.name? a = g₂.name? b)
    (hcontrol : g₁.control? a = g₂.control? b) (A : Acceptor) : A.opened g₁ a = A.opened g₂ b := by
  unfold Acceptor.opened
  simp only [Matcher.accepts_congr hname hcontrol]

end Reading

namespace Acceptor

/-! ## Ways through an automaton -/

variable {a : Acceptor} {g : Graph} {id : MachineId} {ids : List MachineId} {s t : Nat}

/-- The machines lead from the one state to the other. -/
def Leads (edges : List Edge) (g : Graph) : List MachineId → Nat → Nat → Prop
  | [], s, t => s = t
  | id :: ids, s, t =>
    ∃ e ∈ edges, e.source = s ∧ e.matcher.accepts g id = true ∧ Leads edges g ids e.target t

/-- The automaton, started afresh, has a way from an initial state to a final one. -/
def Recognises (a : Acceptor) (g : Graph) (ids : List MachineId) : Prop :=
  ∃ s ∈ a.init, ∃ t ∈ a.final, Leads a.edges g ids s t

theorem mem_edgesFrom {e : Edge} : e ∈ a.edgesFrom s ↔ e ∈ a.edges ∧ e.source = s := by
  rw [edgesFrom, List.mem_filter, decide_eq_true_eq]

theorem mem_active_step :
    t ∈ (a.step g id).active ↔
      ∃ e ∈ a.edges, e.source ∈ a.active ∧ e.matcher.accepts g id = true ∧ e.target = t := by
  simp only [step, moveTo, states, SortedList.mem_ofList, List.mem_map, opened, List.mem_flatMap,
    List.mem_filterMap]
  constructor
  · rintro ⟨⟨key, target⟩, ⟨s, hs, ⟨e, i⟩, he, hopen⟩, rfl⟩
    obtain ⟨hmem, rfl⟩ := mem_edgesFrom.1 (List.fst_mem_of_mem_zipIdx he)
    simp only [Option.ite_none_right_eq_some, Option.some.injEq, Prod.mk.injEq] at hopen
    exact ⟨e, hmem, hs, hopen.1, hopen.2.2⟩
  · rintro ⟨e, he, hs, hid, rfl⟩
    obtain ⟨i, hi⟩ := List.mem_iff_getElem?.1 (mem_edgesFrom.2 ⟨he, rfl⟩)
    refine ⟨((e.source, i), e.target), ⟨e.source, hs, (e, i), ?_, ?_⟩, rfl⟩
    · exact List.mk_mem_zipIdx_iff_getElem?.2 hi
    · rw [if_pos hid]

theorem read_eq (a : Acceptor) (g : Graph) (id : MachineId) :
    a.read g id =
      match a.fault? with
      | some fault => .error (.automaton fault)
      | none => .ok (a.step g id) := by
  rw [read, validate]
  cases a.fault? <;> rfl

theorem moveTo_scan (states : List Nat) (g : Graph) (ids : List MachineId) (a : Acceptor) :
    (a.scan g ids).2.moveTo states = a.moveTo states := by
  induction ids generalizing a with
  | nil => rfl
  | cons id ids ih =>
    unfold scan
    simp only
    split
    · rfl
    · exact (ih _).trans rfl

/-- Where an automaton stands does not matter once it is started afresh. -/
theorem reset_eq_of_moveTo {a' : Acceptor} (h : a.moveTo [] = a'.moveTo []) : a.reset = a'.reset := by
  unfold moveTo at h
  obtain ⟨n, i, f, e, s⟩ := a
  obtain ⟨n', i', f', e', s'⟩ := a'
  simp only [mk.injEq] at h
  obtain ⟨rfl, rfl, rfl, rfl, -⟩ := h
  rfl

theorem atFinal_iff : a.atFinal = true ↔ ∃ s ∈ a.active, s ∈ a.final := by
  simp [atFinal]

/-- The induction is on the sequence; what is active after a machine carries it on. -/
theorem scan_iff :
    (a.scan g ids).1 = true ↔ ∃ s ∈ a.active, ∃ t ∈ a.final, Leads a.edges g ids s t := by
  induction ids generalizing a with
  | nil =>
    rw [scan, atFinal_iff]
    constructor
    · rintro ⟨s, hs, hfinal⟩
      exact ⟨s, hs, s, hfinal, rfl⟩
    · rintro ⟨s, hs, t, ht, rfl⟩
      exact ⟨s, hs, ht⟩
  | cons id ids ih =>
    have hstep : (∃ u ∈ (a.step g id).active, ∃ t ∈ a.final, Leads a.edges g ids u t) ↔
        ∃ s ∈ a.active, ∃ t ∈ a.final, Leads a.edges g (id :: ids) s t := by
      constructor
      · rintro ⟨u, hu, t, ht, hpath⟩
        obtain ⟨e, he, hs, hid, rfl⟩ := mem_active_step.1 hu
        exact ⟨e.source, hs, t, ht, e, he, rfl, hid, hpath⟩
      · rintro ⟨s, hs, t, ht, e, he, rfl, hid, hpath⟩
        exact ⟨e.target, mem_active_step.2 ⟨e, he, hs, hid, rfl⟩, t, ht, hpath⟩
    rw [scan, ← hstep]
    split
    · rename_i hempty
      simp [List.isEmpty_iff.1 hempty]
    · exact ih

/-- An automaton that can run answers whether it recognises the sequence, wherever it stood before. -/
theorem accepts_of_fault?_none (h : a.fault? = none) (g : Graph) (ids : List MachineId) :
    ∃ b, a.accepts g ids = .ok b (a.reset.scan g ids).2 ∧ (b = true ↔ a.Recognises g ids) := by
  have hreset : a.reset.fault? = none := h
  refine ⟨(a.reset.scan g ids).1, ?_, scan_iff⟩
  rw [accepts]
  simp only [hreset]

end Acceptor

end MeaningGraph
