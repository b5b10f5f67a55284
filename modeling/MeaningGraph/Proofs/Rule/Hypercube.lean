/-
# The automaton of a verb

The automaton of a verb accepts a sequence exactly when its machines can be given the arguments one to one, the
verb's own token in front apart.  A way through the cube adds one argument with each machine:

    mask + 1 ⟶* 2 ^ n  along ids   ↔   some slots give each machine of ids an argument that takes it,
                                       no argument twice, and they are the arguments not in mask

Read for the empty mask the slots are a bijection between the places of the sequence and the arguments.  Since
the automaton is started afresh, the checks made before do not matter; and as a bijection can be composed with
a rearrangement of the places, neither does the order of the machines.
-/
import Mathlib.Algebra.Ring.Nat
import Mathlib.Data.List.FinRange
import Mathlib.Data.List.Perm.Basic
import MeaningGraph.Proofs.Acceptor
import MeaningGraph.Proofs.Graph.Names
import MeaningGraph.Proofs.Lexicon.History
import MeaningGraph.Proofs.Pattern.Verbatim
import MeaningGraph.Proofs.Rule.Acts

namespace MeaningGraph.VerbRule

variable {arguments : List Argument} {verb : String} {g : Graph} {id : MachineId}
  {ids args seq : List MachineId} {mask i k n : Nat} {slots : List Nat}

/-! ## Masks -/

theorem testBit_add_two_pow (h : mask.testBit k = false) (i : Nat) :
    (mask + 2 ^ k).testBit i = (decide (i = k) || mask.testBit i) := by
  have hlow : mask % 2 ^ (k + 1) < 2 ^ k := by
    have hbit : mask / 2 ^ k % 2 = 0 := by
      rw [Nat.testBit_eq_decide_div_mod_eq, decide_eq_false_iff_not] at h
      omega
    rw [Nat.pow_succ, Nat.mod_mul, hbit, Nat.mul_zero, Nat.add_zero]
    exact Nat.mod_lt _ (Nat.two_pow_pos k)
  have hsplit := Nat.div_add_mod mask (2 ^ (k + 1))
  have hsum : mask + 2 ^ k = 2 ^ (k + 1) * (mask / 2 ^ (k + 1)) + (2 ^ k + mask % 2 ^ (k + 1)) := by
    omega
  have hpow : 2 ^ (k + 1) = 2 ^ k + 2 ^ k := by
    rw [Nat.pow_succ]
    omega
  rw [hsum, Nat.testBit_two_pow_mul_add _ (by omega)]
  split
  · rename_i hi
    have hmask : mask.testBit i = (mask % 2 ^ (k + 1)).testBit i := by
      rw [Nat.testBit_mod_two_pow]
      simp [hi]
    rw [hmask]
    by_cases hik : i = k
    · subst hik
      rw [Nat.testBit_two_pow_add_eq, Nat.testBit_lt_two_pow hlow]
      simp
    · rw [Nat.testBit_two_pow_add_gt (by omega)]
      simp [hik]
  · rename_i hi
    have hmask : mask.testBit i = (mask / 2 ^ (k + 1)).testBit (i - (k + 1)) := by
      rw [Nat.testBit_div_two_pow, Nat.sub_add_cancel (by omega)]
    rw [hmask]
    simp [show i ≠ k by omega]

theorem testBit_of_le (hmask : mask < 2 ^ n) (hi : n ≤ i) : mask.testBit i = false :=
  Nat.testBit_lt_two_pow (Nat.lt_of_lt_of_le hmask (Nat.pow_le_pow_right (by decide) hi))

theorem add_two_pow_lt (hmask : mask < 2 ^ n) (hk : k < n) (h : mask.testBit k = false) :
    mask + 2 ^ k < 2 ^ n := by
  refine Nat.lt_pow_two_of_testBit _ ?_
  intro i hi
  rw [testBit_add_two_pow h, testBit_of_le hmask hi]
  simp [show i ≠ k by omega]

theorem add_one_eq_two_pow_iff (hmask : mask < 2 ^ n) :
    mask + 1 = 2 ^ n ↔ ∀ k < n, mask.testBit k = true := by
  constructor
  · intro h k hk
    rw [show mask = 2 ^ n - 1 by omega, Nat.testBit_two_pow_sub_one]
    simp [hk]
  · intro h
    have hfull : mask = 2 ^ n - 1 := by
      refine Nat.eq_of_testBit_eq ?_
      intro i
      rw [Nat.testBit_two_pow_sub_one]
      by_cases hi : i < n
      · simp [hi, h i hi]
      · simp [hi, testBit_of_le hmask (Nat.le_of_not_lt hi)]
    omega

/-! ## Giving arguments to machines -/

/-- The argument of that number takes the machine. -/
def Takes (arguments : List Argument) (g : Graph) (id : MachineId) (k : Nat) : Prop :=
  ∃ a, arguments[k]? = some a ∧ a.matcher.accepts g id = true

/-- The slots give each machine an argument of its own that takes it. -/
structure Gives (arguments : List Argument) (g : Graph) (ids : List MachineId) (slots : List Nat) :
    Prop where
  takes : List.Forall₂ (Takes arguments g) ids slots
  nodup : slots.Nodup

/-- There is a bijection between the places of the sequence and the arguments such that each machine is
accepted by its argument's matcher. -/
def Matches (arguments : List Argument) (g : Graph) (args : List MachineId) : Prop :=
  ∃ σ : Fin args.length ≃ Fin arguments.length,
    ∀ i, (arguments.get (σ i)).matcher.accepts g (args.get i) = true

theorem Matches.length_eq (h : Matches arguments g args) : args.length = arguments.length := by
  obtain ⟨σ, -⟩ := h
  exact Fin.equiv_iff_eq.1 ⟨σ⟩

/-- The sequence is made of machines that match the arguments, alone or, if a pattern can be made of the verb, behind
a machine that has its name. -/
def Recognised (verb : String) (arguments : List Argument) (g : Graph) (seq : List MachineId) : Prop :=
  ∃ args, args.length = arguments.length ∧ Matches arguments g args ∧
    (seq = args ∨ ∃ v, g.name? v = some verb ∧ Pattern.Fits verb ∧ seq = v :: args)

theorem Takes.lt (h : Takes arguments g id k) : k < arguments.length := by
  obtain ⟨a, ha, -⟩ := h
  exact (List.getElem?_eq_some_iff.1 ha).1

theorem Gives.lt (h : Gives arguments g ids slots) (hk : k ∈ slots) : k < arguments.length := by
  obtain ⟨i, hi, rfl⟩ := List.mem_iff_getElem.1 hk
  have hlen := h.takes.length_eq
  exact (List.forall₂_iff_get.1 h.takes).2 i (by omega) hi |>.lt

theorem gives_cons :
    Gives arguments g (id :: ids) (k :: slots) ↔
      Takes arguments g id k ∧ Gives arguments g ids slots ∧ k ∉ slots := by
  constructor
  · rintro ⟨htakes, hnodup⟩
    obtain ⟨hk, htakes⟩ := List.forall₂_cons.1 htakes
    obtain ⟨hnot, hnodup⟩ := List.nodup_cons.1 hnodup
    exact ⟨hk, ⟨htakes, hnodup⟩, hnot⟩
  · rintro ⟨hk, h, hnot⟩
    exact ⟨.cons hk h.takes, List.nodup_cons.2 ⟨hnot, h.nodup⟩⟩

/-- The map gives each machine an argument that takes it. -/
def Suits (arguments : List Argument) (g : Graph) (args : List MachineId)
    (f : Fin args.length ↪ Fin arguments.length) : Prop :=
  ∀ i, (arguments.get (f i)).matcher.accepts g (args.get i) = true

/-- The slots that a map gives, machine by machine. -/
def slotsOf {m n : Nat} (f : Fin m ↪ Fin n) : List Nat :=
  List.ofFn fun i => (f i).val

theorem gives_iff_suits :
    Gives arguments g args slots ↔
      ∃ f : Fin args.length ↪ Fin arguments.length, Suits arguments g args f ∧ slotsOf f = slots := by
  constructor
  · intro h
    obtain ⟨hlen, htakes⟩ := List.forall₂_iff_get.1 h.takes
    have hinjective : Function.Injective fun i : Fin args.length =>
        (⟨slots.get (i.cast hlen), h.lt (List.get_mem slots _)⟩ : Fin arguments.length) := by
      intro i j hij
      have hget := List.nodup_iff_injective_get.1 h.nodup (Fin.mk.inj hij)
      exact Fin.ext (Fin.mk.inj hget)
    refine ⟨⟨_, hinjective⟩, ?_, ?_⟩
    · intro i
      obtain ⟨a, ha, haccepts⟩ := htakes i i.isLt (hlen ▸ i.isLt)
      obtain ⟨_, rfl⟩ := List.getElem?_eq_some_iff.1 ha
      exact haccepts
    · refine List.ext_get (List.length_ofFn.trans hlen) ?_
      intro i _ _
      simp [slotsOf]
  · rintro ⟨f, hf, rfl⟩
    refine ⟨List.forall₂_iff_get.2 ⟨(List.length_ofFn).symm, ?_⟩, ?_⟩
    · intro i hi _
      refine ⟨arguments.get (f ⟨i, hi⟩), ?_, hf ⟨i, hi⟩⟩
      simp [slotsOf]
    · refine List.nodup_ofFn_ofInjective ?_
      intro i j hij
      exact f.injective (Fin.ext hij)

/-- All arguments given, each once, are a bijection. -/
theorem matches_iff_slots :
    Matches arguments g args ↔
      ∃ slots, Gives arguments g args slots ∧ ∀ k < arguments.length, k ∈ slots := by
  constructor
  · rintro ⟨σ, hσ⟩
    refine ⟨slotsOf σ.toEmbedding, gives_iff_suits.2 ⟨σ.toEmbedding, hσ, rfl⟩, ?_⟩
    intro k hk
    refine (List.mem_ofFn).2 ⟨σ.symm ⟨k, hk⟩, ?_⟩
    simp
  · rintro ⟨slots, h, hall⟩
    obtain ⟨f, hf, rfl⟩ := gives_iff_suits.1 h
    have hsurjective : Function.Surjective f := by
      intro k
      obtain ⟨i, hi⟩ := (List.mem_ofFn).1 (hall k k.isLt)
      exact ⟨i, Fin.ext hi⟩
    exact ⟨Equiv.ofBijective f ⟨f.injective, hsurjective⟩, hf⟩

theorem Matches.perm {args' : List MachineId} (h : Matches arguments g args) (hperm : args'.Perm args) :
    Matches arguments g args' := by
  obtain ⟨slots, hgives, hall⟩ := matches_iff_slots.1 h
  obtain ⟨slots', htakes, hslots⟩ := List.perm_comp_forall₂ hperm hgives.takes
  refine matches_iff_slots.2 ⟨slots', ⟨htakes, hslots.nodup_iff.2 hgives.nodup⟩, ?_⟩
  intro k hk
  exact hslots.mem_iff.2 (hall k hk)

/-! ## Ways through the cube -/

theorem mem_edgesAt {e : Edge} :
    e ∈ edgesAt arguments mask ↔
      ∃ k a, arguments[k]? = some a ∧ mask.testBit k = false ∧
        e = ⟨mask + 1, a.matcher, mask + 2 ^ k + 1⟩ := by
  simp only [edgesAt, List.mem_filterMap, Prod.exists, List.mk_mem_zipIdx_iff_getElem?, Nat.one_shiftLeft]
  constructor
  · rintro ⟨a, k, ha, he⟩
    split at he
    · cases he
    · rename_i hbit
      exact ⟨k, a, ha, Bool.eq_false_iff.2 hbit, (Option.some.inj he).symm⟩
  · rintro ⟨k, a, ha, hbit, rfl⟩
    refine ⟨a, k, ha, ?_⟩
    rw [hbit]
    rfl

theorem mem_edges_hypercube {e : Edge} :
    e ∈ (hypercube verb arguments).edges ↔
      e = ⟨0, .exact verb, 1⟩ ∨ ∃ mask < 2 ^ arguments.length, e ∈ edgesAt arguments mask := by
  simp only [hypercube, List.mem_cons, List.mem_flatMap, List.mem_range, Nat.one_shiftLeft]

theorem leads_cube_cons (hmask : mask < 2 ^ arguments.length) {t : Nat} :
    Acceptor.Leads (hypercube verb arguments).edges g (id :: ids) (mask + 1) t ↔
      ∃ k, Takes arguments g id k ∧ mask.testBit k = false ∧
        Acceptor.Leads (hypercube verb arguments).edges g ids (mask + 2 ^ k + 1) t := by
  constructor
  · rintro ⟨e, he, hsource, hid, hpath⟩
    rcases mem_edges_hypercube.1 he with rfl | ⟨mask', -, he⟩
    · cases hsource
    · obtain ⟨k, a, ha, hbit, rfl⟩ := mem_edgesAt.1 he
      obtain rfl : mask' = mask := Nat.succ.inj hsource
      exact ⟨k, ⟨a, ha, hid⟩, hbit, hpath⟩
  · rintro ⟨k, ⟨a, ha, hid⟩, hbit, hpath⟩
    refine ⟨⟨mask + 1, a.matcher, mask + 2 ^ k + 1⟩, ?_, rfl, hid, hpath⟩
    exact mem_edges_hypercube.2 (.inr ⟨mask, hmask, mem_edgesAt.2 ⟨k, a, ha, hbit, rfl⟩⟩)

/-- The slots give each machine an argument that is not in the mask, and no other argument is missing from the
mask. -/
structure Fills (arguments : List Argument) (g : Graph) (mask : Nat) (ids : List MachineId)
    (slots : List Nat) : Prop where
  gives : Gives arguments g ids slots
  free : ∀ k ∈ slots, mask.testBit k = false
  full : ∀ k < arguments.length, mask.testBit k = true ∨ k ∈ slots

theorem fills_nil : Fills arguments g mask [] [] ↔ ∀ k < arguments.length, mask.testBit k = true := by
  constructor
  · intro h k hk
    exact (h.full k hk).resolve_right List.not_mem_nil
  · intro h
    exact ⟨⟨.nil, List.nodup_nil⟩, fun _ hk => (List.not_mem_nil hk).elim, fun k hk => .inl (h k hk)⟩

theorem Fills.add (h : Fills arguments g mask (id :: ids) (k :: slots)) :
    Fills arguments g (mask + 2 ^ k) ids slots := by
  obtain ⟨-, hgives, hnot⟩ := gives_cons.1 h.gives
  have hbit := testBit_add_two_pow (h.free k List.mem_cons_self)
  refine ⟨hgives, ?_, ?_⟩
  · intro j hj
    have hjk : j ≠ k := by
      rintro rfl
      exact hnot hj
    rw [hbit, h.free j (List.mem_cons_of_mem _ hj)]
    simp [hjk]
  · intro j hj
    rw [hbit]
    rcases h.full j hj with hj | hj
    · exact .inl (by simp [hj])
    · rcases List.mem_cons.1 hj with rfl | hj
      · exact .inl (by simp)
      · exact .inr hj

theorem Fills.cons (hk : Takes arguments g id k) (hbit : mask.testBit k = false)
    (h : Fills arguments g (mask + 2 ^ k) ids slots) : Fills arguments g mask (id :: ids) (k :: slots) := by
  have hfree : ∀ j ∈ slots, j ≠ k ∧ mask.testBit j = false := by
    intro j hj
    have hj := h.free j hj
    rw [testBit_add_two_pow hbit, Bool.or_eq_false_iff, decide_eq_false_iff_not] at hj
    exact hj
  refine ⟨gives_cons.2 ⟨hk, h.gives, fun hmem => (hfree k hmem).1 rfl⟩, ?_, ?_⟩
  · intro j hj
    rcases List.mem_cons.1 hj with rfl | hj
    · exact hbit
    · exact (hfree j hj).2
  · intro j hj
    have hj := h.full j hj
    rw [testBit_add_two_pow hbit, Bool.or_eq_true, decide_eq_true_eq] at hj
    rcases hj with (rfl | hj) | hj
    · exact .inr List.mem_cons_self
    · exact .inl hj
    · exact .inr (List.mem_cons_of_mem _ hj)

/-- The induction is on the sequence, for all masks at once: a machine that is given argument `k` leads on from
the mask with `k` added. -/
theorem leads_cube_iff (hmask : mask < 2 ^ arguments.length) :
    Acceptor.Leads (hypercube verb arguments).edges g ids (mask + 1) (2 ^ arguments.length) ↔
      ∃ slots, Fills arguments g mask ids slots := by
  induction ids generalizing mask with
  | nil =>
    rw [Acceptor.Leads, add_one_eq_two_pow_iff hmask, ← fills_nil (g := g)]
    constructor
    · intro h
      exact ⟨[], h⟩
    · rintro ⟨slots, h⟩
      obtain rfl := List.forall₂_nil_left_iff.1 h.gives.takes
      exact h
  | cons id ids ih =>
    rw [leads_cube_cons hmask]
    constructor
    · rintro ⟨k, hk, hbit, hpath⟩
      obtain ⟨slots, h⟩ := (ih (add_two_pow_lt hmask hk.lt hbit)).1 hpath
      exact ⟨k :: slots, h.cons hk hbit⟩
    · rintro ⟨slots, h⟩
      obtain ⟨k, slots, hk, -, rfl⟩ := List.forall₂_cons_left_iff.1 h.gives.takes
      have hbit := h.free k List.mem_cons_self
      exact ⟨k, hk, hbit, (ih (add_two_pow_lt hmask hk.lt hbit)).2 ⟨slots, h.add⟩⟩

theorem fills_zero :
    Fills arguments g 0 args slots ↔
      Gives arguments g args slots ∧ ∀ k < arguments.length, k ∈ slots := by
  constructor
  · intro h
    refine ⟨h.gives, ?_⟩
    intro k hk
    exact (h.full k hk).resolve_left (by simp)
  · rintro ⟨hgives, hall⟩
    exact ⟨hgives, fun k _ => Nat.zero_testBit k, fun k hk => .inr (hall k hk)⟩

theorem leads_empty_iff :
    Acceptor.Leads (hypercube verb arguments).edges g args 1 (2 ^ arguments.length) ↔
      Matches arguments g args := by
  rw [matches_iff_slots, show 1 = 0 + 1 from rfl, leads_cube_iff (Nat.two_pow_pos _)]
  exact exists_congr fun _ => fills_zero

theorem leads_verb_iff :
    Acceptor.Leads (hypercube verb arguments).edges g seq 0 (2 ^ arguments.length) ↔
      ∃ v args, seq = v :: args ∧ (g.name? v = some verb ∧ Pattern.Fits verb) ∧ Matches arguments g args := by
  constructor
  · intro h
    cases seq with
    | nil => exact absurd h (Nat.two_pow_pos _).ne
    | cons v args =>
      obtain ⟨e, he, hsource, hv, hpath⟩ := h
      rcases mem_edges_hypercube.1 he with rfl | ⟨mask, -, he⟩
      · exact ⟨v, args, rfl, Matcher.accepts_exact.1 hv, leads_empty_iff.1 hpath⟩
      · obtain ⟨k, a, -, -, rfl⟩ := mem_edgesAt.1 he
        cases hsource
  · rintro ⟨v, args, rfl, hv, hmatch⟩
    have hedge : ⟨0, .exact verb, 1⟩ ∈ (hypercube verb arguments).edges := mem_edges_hypercube.2 (.inl rfl)
    exact ⟨_, hedge, rfl, Matcher.accepts_exact.2 hv, leads_empty_iff.2 hmatch⟩

theorem recognises_hypercube :
    (hypercube verb arguments).Recognises g seq ↔ Recognised verb arguments g seq := by
  constructor
  · rintro ⟨s, hs, t, ht, hpath⟩
    simp only [hypercube, List.mem_singleton, Nat.one_shiftLeft] at ht
    subst ht
    rcases List.mem_pair.1 hs with rfl | rfl
    · obtain ⟨v, args, rfl, ⟨hv, hfits⟩, hmatch⟩ := leads_verb_iff.1 hpath
      exact ⟨args, hmatch.length_eq, hmatch, .inr ⟨v, hv, hfits, rfl⟩⟩
    · have hmatch := leads_empty_iff.1 hpath
      exact ⟨seq, hmatch.length_eq, hmatch, .inl rfl⟩
  · have hfinal : 2 ^ arguments.length ∈ (hypercube verb arguments).final := by
      rw [hypercube, Nat.one_shiftLeft]
      exact List.mem_singleton_self _
    rintro ⟨args, -, hmatch, rfl | ⟨v, hv, hfits, rfl⟩⟩
    · exact ⟨1, List.mem_cons_of_mem _ List.mem_cons_self, _, hfinal, leads_empty_iff.2 hmatch⟩
    · exact ⟨0, List.mem_cons_self, _, hfinal, leads_verb_iff.2 ⟨v, args, rfl, ⟨hv, hfits⟩, hmatch⟩⟩

/-! ## Rules from a lexicon -/

/-- The argument that a numbered child of a definition stands for, if its name is a deep case. -/
def expected? (g : Graph) (cases : DeepCases) (link : Nat × MachineId) : Option Argument :=
  (g.name? link.2).bind fun name => (cases.find? name).map fun matcher => ⟨name, link.1, matcher⟩

theorem discoverIn_ok {cases : DeepCases} {links : List (Nat × MachineId)}
    {found : List (String × Nat × Matcher)} (h : discoverIn g cases links = .ok found) :
    found.map (fun (name, p, matcher) => (⟨name, p, matcher⟩ : Argument)) =
      links.filterMap (expected? g cases) := by
  induction links generalizing found with
  | nil =>
    cases h
    rfl
  | cons link links ih =>
    obtain ⟨p, child⟩ := link
    obtain ⟨name, hname, h⟩ := Outcome.ok_of_bind h
    obtain ⟨more, hmore, h⟩ := Outcome.ok_of_bind h
    rw [List.filterMap_cons, expected?, Graph.name?_of_name hname, Option.bind_some, ← ih hmore]
    cases hcase : cases.find? name with
    | none =>
      rw [hcase] at h
      cases h
      rfl
    | some matcher =>
      rw [hcase] at h
      cases h
      rfl

/-- A rule built for a verb is made of the definition's control, and of the first arguments that the
definition expects. -/
theorem ofLexicon?_ok {l : Lexicon} {cases : DeepCases} {r : VerbRule}
    (h : ofLexicon? l verb cases = .ok (some r)) :
    r.arguments ≠ [] ∧
    ∃ definition m, l.static? verb = some definition ∧ l.graph.find? definition = some m ∧
      r = ⟨verb, l.graph.control? definition,
        ((argumentLinks m).filterMap (expected? l.graph cases)).take maxArguments,
        hypercube verb (((argumentLinks m).filterMap (expected? l.graph cases)).take maxArguments)⟩ := by
  unfold ofLexicon? at h
  split at h
  · cases h
  · rename_i definition hdefinition
    obtain ⟨found, hfound, h⟩ := Outcome.ok_of_bind h
    obtain ⟨m, hm, hfound⟩ := Outcome.ok_of_bind hfound
    obtain ⟨names, hnames, hfound⟩ := Outcome.ok_of_bind hfound
    cases hfound
    rw [discoverIn_ok hnames] at h
    split at h
    · cases h
    · rename_i hnonempty
      cases h
      refine ⟨?_, definition, m, hdefinition, Graph.get_eq_ok_iff.1 hm, rfl⟩
      rw [Ne, List.take_eq_nil_iff]
      rintro (hmax | hnil)
      · cases hmax
      · rw [hnil] at hnonempty
        exact hnonempty rfl

/-! ## Checks -/

/-- The rule after checks of sequences in graphs. -/
def afterChecks (r : VerbRule) (checks : List (Graph × List MachineId)) : VerbRule :=
  checks.foldl (fun r check => Outcome.state (Rule.check check.1 check.2 r)) r

/-- Whatever the automaton has read before, it is the cube that a check runs. -/
theorem check_of_rest {r : VerbRule} {control : Option Control}
    (h : r.rest = rest ⟨verb, control, arguments, hypercube verb arguments⟩) (g : Graph)
    (seq : List MachineId) :
    ∃ b r', Rule.check g seq r = .ok b r' ∧ (b = true ↔ Recognised verb arguments g seq) ∧
      r'.rest = r.rest := by
  have hreset : r.automaton.reset = (hypercube verb arguments).reset :=
    Acceptor.reset_eq_of_moveTo (congrArg VerbRule.automaton h)
  have hfault : r.automaton.fault? = none := by
    change r.automaton.reset.fault? = none
    rw [hreset]
    rfl
  have hrecognises : r.automaton.Recognises g seq ↔ Recognised verb arguments g seq := by
    change r.automaton.reset.Recognises g seq ↔ _
    rw [hreset]
    exact recognises_hypercube
  obtain ⟨b, haccepts, hb⟩ := Acceptor.accepts_of_fault?_none hfault g seq
  exact ⟨b, _, Rule.onPart_of_ok haccepts, hb.trans hrecognises, r.rest_scan g seq⟩

theorem rest_afterChecks {r : VerbRule} {control : Option Control} (checks : List (Graph × List MachineId))
    (h : r.rest = rest ⟨verb, control, arguments, hypercube verb arguments⟩) :
    (r.afterChecks checks).rest = r.rest := by
  induction checks generalizing r with
  | nil => rfl
  | cons check checks ih =>
    obtain ⟨b, r', hcheck, -, hrest⟩ := check_of_rest h check.1 check.2
    have hstate : Outcome.state (Rule.check check.1 check.2 r) = r' := by
      rw [hcheck]
      rfl
    rw [afterChecks, List.foldl_cons, hstate]
    exact (ih (hrest.trans h)).trans hrest

theorem check_afterChecks {l : Lexicon} {cases : DeepCases} {r : VerbRule}
    (hr : ofLexicon? l verb cases = .ok (some r)) (checks : List (Graph × List MachineId)) (g : Graph)
    (seq : List MachineId) :
    ∃ b r', Rule.check g seq (r.afterChecks checks) = .ok b r' ∧
      (b = true ↔ Recognised verb r.arguments g seq) := by
  obtain ⟨-, definition, m, -, -, heq⟩ := ofLexicon?_ok hr
  have hrest : r.rest = rest ⟨verb, r.control, r.arguments, hypercube verb r.arguments⟩ := by
    rw [heq]
  obtain ⟨b, r', hcheck, hb, -⟩ := check_of_rest ((rest_afterChecks checks hrest).trans hrest) g seq
  exact ⟨b, r', hcheck, hb⟩

theorem recognised_of_length (hlength : args.length = arguments.length) :
    Recognised verb arguments g args ↔ Matches arguments g args := by
  constructor
  · rintro ⟨args', hlength', hmatch, rfl | ⟨v, -, -, rfl⟩⟩
    · exact hmatch
    · rw [List.length_cons] at hlength
      omega
  · intro hmatch
    exact ⟨args, hlength, hmatch, .inl rfl⟩

theorem recognised_cons_of_length {v : MachineId} (hlength : args.length = arguments.length) :
    Recognised verb arguments g (v :: args) ↔
      (g.name? v = some verb ∧ Pattern.Fits verb) ∧ Matches arguments g args := by
  constructor
  · rintro ⟨args', hlength', hmatch, rfl | ⟨v, hv, hfits, heq⟩⟩
    · rw [List.length_cons] at hlength'
      omega
    · obtain ⟨rfl, rfl⟩ := List.cons.inj heq
      exact ⟨⟨hv, hfits⟩, hmatch⟩
  · rintro ⟨⟨hv, hfits⟩, hmatch⟩
    exact ⟨args, hlength, hmatch, .inr ⟨v, hv, hfits, rfl⟩⟩

/-- A rule built from a lexicon has the first eight arguments of the verb's definition, in the order of the
partitions.  Its check never fails; it says yes exactly to sequences of machines that match the arguments one to
one, alone or after a machine with the name of the verb, whatever has been checked before.  As many machines as
there are arguments get the same answer in any order, alone and after any machine. -/
theorem check_iff_matching {l : Lexicon} {cases : DeepCases} {r : VerbRule}
    (hr : ofLexicon? l verb cases = .ok (some r)) :
    (∃ definition m, l.static? verb = some definition ∧ l.graph.find? definition = some m ∧
      r.arguments = ((argumentLinks m).filterMap (expected? l.graph cases)).take 8) ∧
    (∀ checks g seq, ∃ b r', Rule.check g seq (r.afterChecks checks) = .ok b r' ∧
      (b = true ↔ Recognised verb r.arguments g seq)) ∧
    (∀ checks checks' g args args', args.length = r.arguments.length → args.Perm args' →
      (∃ b r₁ r₂, Rule.check g args (r.afterChecks checks) = .ok b r₁ ∧
        Rule.check g args' (r.afterChecks checks') = .ok b r₂) ∧
      ∀ v, ∃ b r₁ r₂, Rule.check g (v :: args) (r.afterChecks checks) = .ok b r₁ ∧
        Rule.check g (v :: args') (r.afterChecks checks') = .ok b r₂) := by
  obtain ⟨-, definition, m, hdefinition, hm, heq⟩ := ofLexicon?_ok hr
  have hsame : ∀ checks checks' g seq seq',
      (Recognised verb r.arguments g seq ↔ Recognised verb r.arguments g seq') →
      ∃ b r₁ r₂, Rule.check g seq (r.afterChecks checks) = .ok b r₁ ∧
        Rule.check g seq' (r.afterChecks checks') = .ok b r₂ := by
    intro checks checks' g seq seq' hiff
    obtain ⟨b, r₁, hb, hbiff⟩ := check_afterChecks hr checks g seq
    obtain ⟨b', r₂, hb', hbiff'⟩ := check_afterChecks hr checks' g seq'
    obtain rfl : b = b' := Bool.eq_iff_iff.2 (hbiff.trans (hiff.trans hbiff'.symm))
    exact ⟨b, r₁, r₂, hb, hb'⟩
  refine ⟨⟨definition, m, hdefinition, hm, congrArg VerbRule.arguments heq⟩, check_afterChecks hr, ?_⟩
  intro checks checks' g args args' hlength hperm
  have hlength' : args'.length = r.arguments.length := hperm.length_eq.symm.trans hlength
  have hmatch : Matches r.arguments g args ↔ Matches r.arguments g args' :=
    ⟨fun h => h.perm hperm.symm, fun h => h.perm hperm⟩
  constructor
  · refine hsame checks checks' g args args' ?_
    rw [recognised_of_length hlength, recognised_of_length hlength', hmatch]
  · intro v
    refine hsame checks checks' g (v :: args) (v :: args') ?_
    rw [recognised_cons_of_length hlength, recognised_cons_of_length hlength', hmatch]

/-- A lexicon with a verb that expects a source and a goal. -/
def journey : Lexicon :=
  Lexicon.empty.replay [.create "go" (some (.pos "VERB")), .create "FROM" none, .create "TO" none,
    .append ⟨0, 1⟩ ⟨1, 1⟩ 1, .append ⟨0, 1⟩ ⟨2, 1⟩ 2, .addStatic [⟨0, 1⟩]]

/-- The rule for the verb: its source and its goal are told by their case. -/
def going : VerbRule :=
  let arguments : List Argument :=
    [⟨"FROM", 1, .pos (DeepCases.caseFeature ["ABL", "ELA", "DEL"])⟩,
      ⟨"TO", 2, .pos (DeepCases.caseFeature ["ALL", "ILL", "SBL", "TER"])⟩]
  ⟨"go", some (.pos "VERB"), arguments, hypercube "go" arguments⟩

theorem check_iff_matching_going :
    ofLexicon? journey "go" .default = .ok (some going) ∧ going.expected = [("FROM", 1), ("TO", 2)] ∧
    ∀ checks g seq, ∃ b r', Rule.check g seq (going.afterChecks checks) = .ok b r' ∧
      (b = true ↔ Recognised "go" going.arguments g seq) := by
  have hr : ofLexicon? journey "go" .default = .ok (some going) := rfl
  exact ⟨hr, rfl, (check_iff_matching hr).2.1⟩

/-- A lexicon with a verb of a long name, which expects an agent, and someone at home. -/
def longVerb : Lexicon :=
  Lexicon.empty.replay [.create Pattern.longName (some (.pos "VERB")), .create "AGT" none, .append ⟨0, 1⟩ ⟨1, 1⟩ 1,
    .addStatic [⟨0, 1⟩], .create "home" (some (.kr ⟨"NOUN", [⟨"CAS", "NOM"⟩]⟩))]

/-- Who is at home is accepted as the agent, but not behind the verb. -/
theorem check_longVerb :
    ∃ r, ofLexicon? longVerb Pattern.longName .default = .ok (some r) ∧
      longVerb.graph.name? ⟨0, 1⟩ = some Pattern.longName ∧ Matches r.arguments longVerb.graph [⟨2, 1⟩] ∧
      (∃ r', Rule.check longVerb.graph [⟨2, 1⟩] r = .ok true r') ∧
      ∃ r', Rule.check longVerb.graph [⟨0, 1⟩, ⟨2, 1⟩] r = .ok false r' := by
  let arguments : List Argument := [⟨"AGT", 1, .pos (DeepCases.caseFeature ["NOM"])⟩]
  have hstatic : longVerb.static? Pattern.longName = some ⟨0, 1⟩ := by
    change List.lookup Pattern.longName [(Pattern.longName, _)] = _
    rw [List.lookup_cons_self]
  have hr : ofLexicon? longVerb Pattern.longName .default =
      .ok (some ⟨Pattern.longName, some (.pos "VERB"), arguments, hypercube Pattern.longName arguments⟩) := by
    rw [ofLexicon?, hstatic]
    rfl
  have htakes : Takes arguments longVerb.graph ⟨2, 1⟩ 0 := ⟨_, rfl, by decide +kernel⟩
  have hmatch : Matches arguments longVerb.graph [⟨2, 1⟩] := by
    refine matches_iff_slots.2 ⟨[0], ⟨.cons htakes .nil, List.nodup_singleton 0⟩, fun k hk => ?_⟩
    exact List.mem_singleton.2 (Nat.lt_one_iff.1 hk)
  obtain ⟨b, r₁, hcheck, hb⟩ := check_afterChecks hr [] longVerb.graph [⟨2, 1⟩]
  obtain ⟨b', r₂, hcheck', hb'⟩ := check_afterChecks hr [] longVerb.graph [⟨0, 1⟩, ⟨2, 1⟩]
  obtain rfl : b = true := hb.2 ((recognised_of_length rfl).2 hmatch)
  obtain rfl : b' = false := by
    rw [recognised_cons_of_length rfl] at hb'
    exact Bool.eq_false_iff.2 fun hyes => Pattern.not_fits_longName (hb'.1 hyes).1.2
  exact ⟨_, hr, rfl, hmatch, ⟨r₁, hcheck⟩, r₂, hcheck'⟩

end MeaningGraph.VerbRule
