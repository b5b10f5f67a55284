/-
# An analysis leaves the background alone

An analysis starts by clearing, and what it then finds live is the background.  Run beside itself, it is a
run beside a twin; so on every exit, by an answer or by a failure, its lexicon works beside the background
still: the definitions are what they were, the machines of the background are as they were, and none of
them is linked with a machine made since.  Clearing leads back to the background.

`Kept s t` says that session `t` has the background and the programs of `s`.  Analyses keep it, so it holds
of all that a batch leaves behind.
-/
import MeaningGraph.NounPhrase
import MeaningGraph.Proofs.Lexicon.Clear
import MeaningGraph.Proofs.Lexicon.History
import MeaningGraph.Proofs.Twin.Run

namespace MeaningGraph

open List (Forall₂)
open Outcome (state)

namespace Lexicon

variable {base l : Lexicon} {p c : MachineId} {i : Nat}

theorem Confined.contains_iff_of_holds (h : Confined base l) (hpc : l.graph.Holds p i c) :
    base.graph.contains p = true ↔ base.graph.contains c = true := by
  constructor
  · intro hp
    obtain ⟨m, hm⟩ := Graph.contains_iff.1 hp
    rw [Graph.holds_iff_of_find? (h.frame p m hm)] at hpc
    exact h.background.graph.contains_child ⟨m, hm, hpc⟩
  · intro hc
    obtain ⟨m, hm⟩ := Graph.contains_iff.1 hc
    have hheld := (h.sound.graph.links.holds_iff p i c).1 hpc
    rw [Graph.heldBy_iff_of_find? (h.frame c m hm)] at hheld
    exact h.background.graph.contains_parent ⟨m, hm, hheld⟩

theorem Confined.contains_iff_of_heldBy (h : Confined base l) (hcp : l.graph.HeldBy c p i) :
    base.graph.contains p = true ↔ base.graph.contains c = true :=
  h.contains_iff_of_holds ((h.sound.graph.links.holds_iff p i c).2 hcp)

end Lexicon

namespace Analysis

variable {s t : Session Construction} {o : Options} {sentence : List Phrase}

/-- The world in which nothing was made yet. -/
def start : World :=
  ⟨fun _ _ => False, fun _ _ => False⟩

/-- Session `t` has the background and the programs of session `s`. -/
structure Kept (s t : Session Construction) : Prop where
  sound : t.lexicon.Sound
  statics : t.lexicon.statics = s.lexicon.statics
  cleared : ∀ id, t.lexicon.clearActive.graph.find? id = s.lexicon.clearActive.graph.find? id
  program : t.rules.program = s.rules.program

theorem Kept.refl (h : s.lexicon.Sound) : Kept s s :=
  ⟨h, rfl, fun _ => rfl, rfl⟩

theorem ofKind_reset (rules : RuleSet Construction) (k : RuleKind) :
    rules.reset.ofKind k = (rules.ofKind k).map Rule.reset := by
  cases k <;> rfl

theorem twins_reset {rs₁ rs₂ : List Construction}
    (h : rs₁.map Construction.program = rs₂.map Construction.program) (v : Pairing) :
    Forall₂ (Construction.Twin v) (rs₁.map Rule.reset) (rs₂.map Rule.reset) := by
  induction rs₁ generalizing rs₂ with
  | nil =>
    obtain rfl := List.map_eq_nil_iff.1 h.symm
    exact .nil
  | cons r₁ rs₁ ih =>
    obtain ⟨r₂, rs₂, rfl, hr, hrs⟩ := List.map_eq_cons_iff.1 h.symm
    exact .cons (Construction.twin_reset hr.symm v) (ih hrs.symm)

/-- The cleared lexicon of `t` works beside the background of `s`. -/
theorem Kept.confined (h : Kept s t) (hs : s.lexicon.Sound) :
    Lexicon.Confined s.lexicon.clearActive (clear t).lexicon where
  background := hs.evolves_clearActive.sound
  sound := h.sound.evolves_clearActive.sound
  statics := h.statics
  frame id m hm := (h.cleared id).trans hm
  dead id _ hdead := by
    change (t.lexicon.clearActive.graph.find? id).isSome = false
    rw [h.cleared id]
    exact hdead
  apart _ hid := (List.not_mem_nil hid).elim

/-- Cleared sessions of one background and one program start as twins. -/
theorem Kept.runs (h : Kept s t) (hs : s.lexicon.Sound) :
    Session.Runs s.lexicon.clearActive s.rules.program start (clear s) (clear t) where
  lexica :=
    { left := (Kept.refl hs).confined hs
      right := h.confined hs
      unique := ⟨fun _ _ _ hx => hx.elim, fun _ _ _ hx => hx.elim⟩
      own := fun _ _ hab => hab.elim
      active_le_own := fun _ _ hab => hab
      alike := fun _ _ hab => hab.elim
      entries := fun _ => .nil
      order := .nil
      mem_order := fun _ _ hab => hab.elim
      named := fun _ hid => (List.not_mem_nil hid).elim }
  rules k := by
    have hprogram : (s.rules.ofKind k).map Construction.program =
        (t.rules.ofKind k).map Construction.program := by
      rw [← RuleSet.ofKind_program, ← RuleSet.ofKind_program, h.program]
    change Forall₂ _ (s.rules.reset.ofKind k) (t.rules.reset.ofKind k)
    rw [ofKind_reset, ofKind_reset]
    exact twins_reset hprogram start.own
  program := s.rules.program_reset

/-- The lexicon that an analysis leaves behind works beside the background. -/
theorem confined_analyze (hs : s.lexicon.Sound) (o : Options) (sentence : List Phrase) :
    Session.Confined s.lexicon.clearActive s.rules.program (state (analyze o sentence s)) := by
  have hagree := analyze_twin ((Kept.refl hs).runs hs) o sentence
  exact hagree.states (P := fun s _ => Session.Confined _ _ s) (fun _ _ _ hruns => hruns.left)
    fun _ _ he => he.1

theorem Kept.step (h : Kept s t) (o : Options) (sentence : List Phrase) :
    Kept s (state (analyze o sentence t)) := by
  have hconfined := confined_analyze h.sound o sentence
  exact ⟨hconfined.lexicon.sound, hconfined.lexicon.statics.trans h.statics,
    fun id => (hconfined.lexicon.find?_clearActive id).trans (h.cleared id),
    hconfined.program.trans h.program⟩

end Analysis

/-! ## The background -/

/-- The background, which is all of `l₀`, is in `l` as it was, and nothing links it with what was made
since.  Clearing `l` leaves it, and nothing else. -/
structure Lexicon.Untouched (l₀ l : Lexicon) : Prop where
  statics : l.statics = l₀.statics
  machines : ∀ id m, l₀.graph.find? id = some m → l.graph.find? id = some m
  children : ∀ p c i, l.graph.Holds p i c →
    (l₀.graph.contains p = true ↔ l₀.graph.contains c = true)
  parents : ∀ c p i, l.graph.HeldBy c p i →
    (l₀.graph.contains p = true ↔ l₀.graph.contains c = true)
  cleared : ∀ id, l.clearActive.graph.find? id = l₀.graph.find? id
  released : ∀ id, l.graph.Known id → l₀.graph.contains id = false →
    l.clearActive.graph.contains id = false

theorem Lexicon.Confined.untouched {l₀ l : Lexicon} (h : Confined l₀.clearActive l) :
    Untouched l₀.clearActive l where
  statics := h.statics
  machines := h.frame
  children _ _ _ := h.contains_iff_of_holds
  parents _ _ _ := h.contains_iff_of_heldBy
  cleared := h.find?_clearActive
  released id _ hdead := by
    change (l.clearActive.graph.find? id).isSome = false
    rw [h.find?_clearActive id]
    exact hdead

namespace Analysis

/-- An analysis touches no background and leaves nothing behind that a clearing would not release: whether
it answers or fails, the machines that were live after its own clearing are as they were, none of them is
linked with a machine it made, and the next clearing leads back to them. -/
theorem untouched_analyze (s : Session Construction) (h : s.lexicon.Reachable) (o : Options)
    (sentence : List Phrase) :
    Lexicon.Untouched (clear s).lexicon (state (analyze o sentence s)).lexicon :=
  (confined_analyze h.sound o sentence).lexicon.untouched

/-- A session that knows what a train is, with the rule for articles. -/
def railway : Session Construction :=
  ⟨Lexicon.empty.replay [.create "train" none, .addStatic [⟨0, 1⟩]], .ofList [.append NounPhrase.detNoun]⟩

theorem untouched_analyze_train :
    Lexicon.Untouched (clear railway).lexicon
      (state (analyze {} [⟨[⟨"the", "the/ART"⟩, ⟨"train", "train/NOUN"⟩], none⟩] railway)).lexicon :=
  untouched_analyze railway ⟨_, rfl⟩ {} _

end Analysis

end MeaningGraph
