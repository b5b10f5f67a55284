/-
# The loop saturates by itself

Where no semantic rule is tried, the loop goes on only as long as the active machines and filled slots become more.
Neither can do so for ever, however the definitions refer to each other and to themselves:

    growth     active machines + filled slots              becomes more with every iteration but the last
    ceiling    growth + names without an instance
                      + empty slots                        becomes no more (a name draws one instance at most,
                                                           and a matrix keeps its slots)

So the number of iterations is at most one more than the names without an instance and the empty slots when the
loop starts (`Session.bound`), and an iteration limit that is no less makes no difference to the loop.
-/
import MeaningGraph.Proofs.Activation.Saturation
import MeaningGraph.Proofs.Activation.Success
import MeaningGraph.Proofs.Lexicon.Once

namespace MeaningGraph

open Outcome
open Lexicon (Draws DrawsOnly RegistersOnce)

/-! ## Slots -/

namespace Construction

def slots : Construction → List AvmSlot
  | .avm r => r.avm.slots
  | _ => []

/-- The slots that hold no machine. -/
def emptySlots (c : Construction) : Nat :=
  c.slots.countP fun slot => !slot.isFilled

theorem filledSlots_add_emptySlots (c : Construction) :
    Rule.filledSlots c + c.emptySlots = c.slots.length := by
  have hfilled : Rule.filledSlots c = c.slots.countP (·.isFilled) := by
    cases c <;> rfl
  have hlength := List.length_eq_countP_add_countP (·.isFilled) (l := c.slots)
  simp only [Bool.not_eq_true, Bool.decide_eq_false] at hlength
  rw [hfilled, emptySlots, hlength]

theorem length_slots_program (c : Construction) : c.program.slots.length = c.slots.length := by
  cases c with
  | avm r => exact List.length_map _
  | append r => rfl
  | verb r => rfl
  | trigger r => rfl

end Construction

namespace RuleSet

variable {rules rules' : RuleSet Construction}

/-- The slots of the matrices that hold no machine. -/
def emptySlots (rules : RuleSet Construction) : Nat :=
  rules.avm.foldr (Construction.emptySlots · + ·) 0

def slotCount (rules : RuleSet Construction) : Nat :=
  (rules.avm.map (·.slots.length)).sum

theorem filledSlots_add_emptySlots (rules : RuleSet Construction) :
    rules.filledSlots + rules.emptySlots = rules.slotCount := by
  unfold filledSlots emptySlots slotCount
  induction rules.avm with
  | nil => rfl
  | cons c cs ih =>
    have hc := c.filledSlots_add_emptySlots
    simp only [List.foldr_cons, List.map_cons, List.sum_cons]
    omega

theorem slotCount_of_program (h : rules'.program = rules.program) : rules'.slotCount = rules.slotCount := by
  have hprogram : ∀ rules : RuleSet Construction, rules.slotCount = rules.program.slotCount := by
    intro rules
    unfold slotCount program
    rw [List.map_map]
    exact congrArg List.sum (List.map_congr_left fun c _ => c.length_slots_program.symm)
  rw [hprogram rules', h, ← hprogram rules]

end RuleSet

/-! ## Sessions without semantic rules -/

namespace Session

variable {s t : Session Construction}

/-- The session is in order, and no semantic rule is tried in it. -/
structure Plain (s : Session Construction) : Prop where
  sound : s.lexicon.Sound
  keyed : s.lexicon.Keyed
  sorted : s.rules.Sorted
  semantic : s.rules.semantic = []

/-- The lexicon has drawn names in, and the rules have kept their programs. -/
structure Drawn (s t : Session Construction) : Prop where
  lexicon : Draws s.lexicon t.lexicon
  program : t.rules.program = s.rules.program

instance : Std.Refl Drawn where
  refl s := ⟨refl_of Draws s.lexicon, rfl⟩

instance : IsTrans (Session Construction) Drawn where
  trans _ _ _ h h' := ⟨trans_of Draws h.lexicon h'.lexicon, h'.program.trans h.program⟩

theorem Plain.drawn (h : s.Plain) (hst : Drawn s t) : t.Plain := by
  have hevolves := hst.lexicon.evolves h.sound
  refine ⟨hevolves.sound, h.keyed.of_evolves h.sound hevolves hst.lexicon.statics, h.sorted.of_program hst.program, ?_⟩
  have hprogram : t.rules.program.semantic = s.rules.program.semantic := congrArg (·.semantic) hst.program
  change t.rules.semantic.map Construction.program = s.rules.semantic.map Construction.program at hprogram
  rw [h.semantic] at hprogram
  exact List.map_eq_nil_iff.1 hprogram

/-- The most iterations that the loop makes from here. -/
def bound (s : Session Construction) : Nat :=
  s.lexicon.inactiveNames.card + s.rules.emptySlots + 1

/-- What growth cannot exceed. -/
def ceiling (s : Session Construction) : Nat :=
  s.lexicon.drawable + s.rules.slotCount

theorem growth_add_bound (s : Session Construction) : Activation.growth s + s.bound = s.ceiling + 1 := by
  have hslots := s.rules.filledSlots_add_emptySlots
  unfold Activation.growth bound ceiling Lexicon.drawable
  omega

theorem Drawn.ceiling_le (h : Drawn s t) (hs : s.lexicon.Sound) : t.ceiling ≤ s.ceiling := by
  have hlexicon := h.lexicon.drawable_le hs
  have hslots := RuleSet.slotCount_of_program h.program
  unfold ceiling
  omega

/-- What growth gains the bound loses. -/
theorem Drawn.bound_lt (h : Drawn s t) (hs : s.lexicon.Sound) (hgrown : Activation.growth s < Activation.growth t) :
    t.bound < s.bound := by
  have hceiling := h.ceiling_le hs
  have hbefore := growth_add_bound s
  have hafter := growth_add_bound t
  omega

end Session

namespace Activation

open Session (Drawn Plain)

variable {s t : Session Construction} {c : Construction} {l : Lexicon}

/-! ## One iteration -/

theorem drawsOnly_expandEach (ids : List MachineId) : DrawsOnly (expandEach ids) := by
  induction ids with
  | nil => exact .of_within (.pure ())
  | cons id ids ih => exact (DrawsOnly.expand id).bind fun _ => ih

theorem drawsOnly_expandPass : DrawsOnly expandPass :=
  DrawsOnly.bind (.of_within .get) fun _ => (drawsOnly_expandEach _).bind fun _ => .of_within (.pure _)

theorem keeps_onLexicon {α : Type} {x : LexiconM α} (hx : Draws s.lexicon (state (x s.lexicon))) :
    Keeps Drawn (fun _ _ => True) s (SessionM.onLexicon x s) := by
  refine keeps_of_state ?_ fun _ _ _ => trivial
  unfold SessionM.onLexicon
  rw [Rule.state_onPart]
  exact ⟨hx, rfl⟩

theorem keeps_onKind {α : Type} {k : RuleKind} {x : RulesM Construction α} {a : α} {rs : List Construction}
    (hx : Within RulesM.Leads x) (h : x (s.rules.ofKind k, s.lexicon) = .ok a (rs, s.lexicon)) :
    Keeps Drawn (fun b _ => b = a) s (SessionM.onKind k x s) := by
  have hleads := (Session.within_onKind hx k).of_ok (SessionM.onKind_of_ok h)
  rw [SessionM.onKind_of_ok h]
  exact ⟨⟨refl_of Draws s.lexicon, hleads.program⟩, rfl⟩

theorem offerAll_avm (r : AvmRule) (l : Lexicon) :
    ∃ answer r', offerAll (Construction.avm r, l) = .ok answer (Construction.avm r', l) := by
  obtain ⟨r', hr', -, -⟩ := offerEach_avm r l.order l
  have hpass : offerAll (Construction.avm r, l) = _ := bind_eq_of_ok (x := offerEach l.order) hr'
  exact ⟨_, r', hpass⟩

theorem forEach_offerAll {rs : List Construction} (hrs : ∀ c ∈ rs, Rule.kind c = .avm) (l : Lexicon) :
    ∃ answers rs', RulesM.forEach offerAll rs l = .ok answers (rs', l) := by
  induction rs with
  | nil => exact ⟨[], [], rfl⟩
  | cons c rs ih =>
    obtain ⟨hc, hrs⟩ := List.forall_mem_cons.1 hrs
    obtain ⟨answers, rs', hrest⟩ := ih hrs
    obtain ⟨r, rfl⟩ := Construction.exists_of_kind_avm hc
    obtain ⟨answer, r', hone⟩ := offerAll_avm r l
    exact ⟨answer :: answers, _, RulesM.forEach_cons_of_ok hone hrest⟩

/-- An iteration without semantic rules draws, and fires nothing. -/
theorem keeps_iterate (hs : s.Plain) (o : Options) :
    Keeps Drawn (fun x _ => x.1.fired = 0) s (iterate o s) := by
  rw [iterate_eq]
  refine (keeps_onLexicon (drawsOnly_expandPass s.lexicon hs.sound)).bind (trans_of Drawn) fun _ s₁ h₁ _ => ?_
  have hs₁ := hs.drawn h₁
  have hnone : RulesM.each (fire o.maxArity) (s₁.rules.ofKind .semantic, s₁.lexicon) = .ok [] ([], s₁.lexicon) := by
    rw [show s₁.rules.ofKind .semantic = [] from hs₁.semantic]
    rfl
  refine (keeps_onKind (RulesM.within_each (within_fire o.maxArity)) hnone).bind (trans_of Drawn) ?_
  rintro _ s₂ h₂ rfl
  have hs₂ := hs₁.drawn h₂
  obtain ⟨answers, rs', hoffer⟩ := forEach_offerAll (hs₂.sorted .avm) s₂.lexicon
  refine (keeps_onKind (RulesM.within_each within_offerAll) hoffer).bind (trans_of Drawn) fun _ s₃ h₃ _ => ?_
  have hs₃ := hs₂.drawn h₃
  refine (keeps_onLexicon (Lexicon.draws_activate hs₃.sound hs₃.keyed)).bind (trans_of Drawn) fun _ s₄ _ _ => ?_
  exact ⟨refl_of Drawn s₄, rfl⟩

/-! ## The loop -/

theorem stop?_ne_iterationCap {o : Options} {it : Iteration} {satisfied grown : Bool} {plugin : Option Nat}
    {number : Nat} {reason : StopReason} (h : stop? o it satisfied plugin number grown = some reason) :
    reason ≠ .iterationCap := by
  rintro rfl
  obtain ⟨hreason, -⟩ | ⟨hreason, -⟩ | ⟨hreason, -⟩ := stop?_eq_some h <;> cases hreason

/-- The loop goes on after an iteration in which no rule fired only if there was growth. -/
theorem grown_of_stop?_none {o : Options} {it : Iteration} {satisfied grown : Bool} {plugin : Option Nat}
    {number : Nat} (h : stop? o it satisfied plugin number grown = none) (hfired : it.fired = 0) :
    grown = true :=
  (stop?_eq_none h).2.2.resolve_left fun hpos => Nat.ne_of_gt hpos hfired

theorem bound_pos (s : Session Construction) : 0 < s.bound :=
  Nat.succ_pos _

/-- The loop draws; it makes no more iterations than the bound, and is not stopped by a limit that is no less. -/
theorem keeps_saturate (hs : s.Plain) (o : Options) (left number : Nat) (plugin : Option Nat) :
    Keeps Drawn (fun x _ => x.1.length ≤ s.bound ∧ (s.bound ≤ left → x.2 ≠ .iterationCap)) s
      (saturate o left number plugin s) := by
  induction left generalizing s number plugin with
  | zero =>
    refine ⟨refl_of Drawn s, Nat.zero_le _, fun hle => ?_⟩
    have hpos := bound_pos s
    omega
  | succ left ih =>
    rw [saturate_succ]
    refine (keeps_iterate hs o).bind (trans_of Drawn) fun x s₁ h₁ hfired => ?_
    unfold proceed
    cases hstop : stop? o x.1 x.2 (pluginAfter plugin number s₁.lexicon) number
        (decide (growth s < growth s₁)) with
    | some reason => exact ⟨refl_of Drawn s₁, bound_pos s, fun _ => stop?_ne_iterationCap hstop⟩
    | none =>
      have hgrown : growth s < growth s₁ := of_decide_eq_true (grown_of_stop?_none hstop hfired)
      have hless := h₁.bound_lt hs.sound hgrown
      refine (ih (hs.drawn h₁) _ _).bind (trans_of Drawn) fun y s₂ _ hy => ?_
      refine ⟨refl_of Drawn s₂, ?_, fun hle => hy.2 (by omega)⟩
      have hlength := hy.1
      rw [List.length_cons]
      omega

/-- Limits that are no less than the bound make no difference to each other. -/
theorem saturate_eq_of_bound_le (hs : s.Plain) (o : Options) {left left' : Nat} (hle : s.bound ≤ left)
    (hle' : s.bound ≤ left') (number : Nat) (plugin : Option Nat) :
    saturate o left number plugin s = saturate o left' number plugin s := by
  induction left generalizing s left' number plugin with
  | zero => exact absurd hle (Nat.not_le_of_lt (bound_pos s))
  | succ left ih =>
    cases left' with
    | zero => exact absurd hle' (Nat.not_le_of_lt (bound_pos s))
    | succ left' =>
      rw [saturate_succ, saturate_succ]
      refine bind_congr rfl fun x s₁ hiterate => ?_
      obtain ⟨h₁, hfired⟩ := (keeps_iterate hs o).of_ok hiterate
      unfold proceed
      cases hstop : stop? o x.1 x.2 (pluginAfter plugin number s₁.lexicon) number
          (decide (growth s < growth s₁)) with
      | some reason => rfl
      | none =>
        have hgrown : growth s < growth s₁ := of_decide_eq_true (grown_of_stop?_none hstop hfired)
        have hless := h₁.bound_lt hs.sound hgrown
        refine bind_congr ?_ fun _ _ _ => rfl
        exact ih (hs.drawn h₁) (by omega) (by omega) _ _

theorem ready_of_live (hl : s.lexicon.Reachable) (hsorted : s.rules.Sorted) (hsemantic : s.rules.semantic = [])
    (hstatics : ∀ id ∈ s.lexicon.statics.values, s.lexicon.graph.contains id = true)
    (hactive : ∀ id ∈ s.lexicon.order, s.lexicon.graph.contains id = true) : s.Ready where
  lexicon :=
    { sound := hl.sound
      filed := hl.filed
      listed := hl.listed
      ordered := hl.orderedParents
      standing := hl.sound.standing_iff.2 hstatics
      live := hactive }
  rules := by
    rintro k _ hc r rfl
    obtain rfl : RuleKind.semantic = k := hsorted k _ hc
    change Construction.verb r ∈ s.rules.semantic at hc
    rw [hsemantic] at hc
    exact (List.not_mem_nil hc).elim

/-- Without semantic rules the loop saturates by itself, whatever the definitions are: it makes at most one
iteration more than there are names of live machines without active instance and empty slots when it starts.  A
limit that is no less does not stop it, and makes no difference to it.  If the definitions and the active machines
are live, the loop answers.  Neither the loop nor any expansion or activation gives a name that has an active
instance a second one. -/
theorem saturate_within_bound (s : Session Construction) (hl : s.lexicon.Reachable) (hsorted : s.rules.Sorted)
    (hsemantic : s.rules.semantic = []) (o : Options) :
    (∀ its stop t, saturate o o.maxIterations 1 none s = .ok (its, stop) t →
      its.length ≤ s.lexicon.inactiveNames.card + s.rules.emptySlots + 1 ∧
      (s.lexicon.inactiveNames.card + s.rules.emptySlots + 1 ≤ o.maxIterations → stop ≠ .iterationCap)) ∧
    (s.lexicon.inactiveNames.card + s.rules.emptySlots + 1 ≤ o.maxIterations →
      saturate o o.maxIterations 1 none s =
        saturate o (s.lexicon.inactiveNames.card + s.rules.emptySlots + 1) 1 none s) ∧
    ((∀ id ∈ s.lexicon.statics.values, s.lexicon.graph.contains id = true) →
      (∀ id ∈ s.lexicon.order, s.lexicon.graph.contains id = true) →
      ∃ its stop t, saturate o o.maxIterations 1 none s = .ok (its, stop) t) ∧
    RegistersOnce s.lexicon (state (saturate o o.maxIterations 1 none s)).lexicon ∧
    ∀ l : Lexicon, l.Reachable →
      (∀ id, RegistersOnce l (state (Lexicon.expand id l))) ∧ RegistersOnce l (state (Lexicon.activate l)) := by
  have hs : s.Plain := ⟨hl.sound, hl.keyed, hsorted, hsemantic⟩
  have hloop := keeps_saturate hs o o.maxIterations 1 none
  refine ⟨fun its stop t hok => (hloop.of_ok hok).2, ?_, ?_, hloop.state.lexicon.registersOnce, fun l hl => ⟨?_, ?_⟩⟩
  · intro hle
    exact saturate_eq_of_bound_le hs o hle (Nat.le_refl _) 1 none
  · intro hstatics hactive
    obtain ⟨⟨its, stop⟩, t, hok, -⟩ :=
      attains_saturate (ready_of_live hl hsorted hsemantic hstatics hactive) o o.maxIterations 1 none
    exact ⟨its, stop, t, hok⟩
  · intro id
    exact (DrawsOnly.expand id l hl.sound).registersOnce
  · exact (Lexicon.draws_activate hl.sound hl.keyed).registersOnce

/-- A train is defined by its track, and a track by its train.  Of a train on a track only the train is active. -/
def junction : Lexicon :=
  Lexicon.empty.replay [.create "train" none, .create "track" none, .append ⟨0, 1⟩ ⟨1, 1⟩ 1,
    .append ⟨1, 1⟩ ⟨0, 1⟩ 1, .addStatic [⟨0, 1⟩, ⟨1, 1⟩], .create "train" none, .create "track" none,
    .append ⟨2, 1⟩ ⟨3, 1⟩ 1, .addActive [⟨2, 1⟩]]

/-- A matrix for the price of a ticket. -/
def priced : RuleSet Construction :=
  .ofList [.avm ⟨"ticket", { slots := [{ name := "price", matcher := .exact "fare", kind := .required }] }⟩]

/-- The track is drawn in by the first iteration, and then there is nothing left: two iterations, where the name
and the slot allow three. -/
theorem saturate_within_bound_junction :
    junction.inactiveNames = {"track"} ∧ priced.emptySlots = 1 ∧
    (∃ its stop t, saturate {} 64 1 none ⟨junction, priced⟩ = .ok (its, stop) t ∧
      its = [⟨1, 0, 0, 0, 2⟩, ⟨1, 0, 0, 0, 2⟩] ∧ its.length ≤ 3 ∧ stop ≠ .iterationCap ∧
      RegistersOnce junction t.lexicon) ∧
    saturate {} 64 1 none ⟨junction, priced⟩ = saturate {} 3 1 none ⟨junction, priced⟩ := by
  have hnames : junction.inactiveNames = {"track"} := by decide +kernel
  have hslots : priced.emptySlots = 1 := by decide +kernel
  have hbound : junction.inactiveNames.card + priced.emptySlots + 1 = 3 := by
    rw [hnames, hslots]
    rfl
  obtain ⟨hits, hsame, hanswers, honce, -⟩ :=
    saturate_within_bound ⟨junction, priced⟩ ⟨_, rfl⟩ (RuleSet.sorted_ofList _) rfl {}
  rw [hbound] at hits hsame
  obtain ⟨its, stop, t, hok⟩ := hanswers (by decide +kernel) (by decide +kernel)
  obtain ⟨hlength, hstop⟩ := hits its stop t hok
  have hanswer : (answer? (saturate {} 64 1 none ⟨junction, priced⟩)).map (·.1) =
      some [⟨1, 0, 0, 0, 2⟩, ⟨1, 0, 0, 0, 2⟩] := by
    decide +kernel
  rw [hok] at honce
  change saturate {} 64 1 none ⟨junction, priced⟩ = _ at hok
  rw [hok] at hanswer
  exact ⟨hnames, hslots, ⟨its, stop, t, hok, Option.some.inj hanswer, hlength, hstop (by decide), honce⟩,
    hsame (by decide)⟩

end Activation

end MeaningGraph
