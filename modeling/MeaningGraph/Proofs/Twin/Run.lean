/-
# Whole analyses in twins

`Session.Runs base P w s t` is said of two analyses under way: the lexica are twins beside `base`, the rules
are twins list by list, and `P` is the program of the rules still.  Everything that steers an analysis, the
counts, the plugin machines and the satisfied matrices, is the same on both sides, so the two go through the
same iterations, and stop or fail together.
-/
import MeaningGraph.Analysis
import MeaningGraph.Proofs.Activation.Steps
import MeaningGraph.Proofs.Twin.Chunk

namespace MeaningGraph

open List (Forall₂)

/-! ## Two analyses under way -/

namespace Session

/-- The lexicon works beside the background, and the rules have kept their programs. -/
structure Confined (base : Lexicon) (P : RuleSet Construction) (s : Session Construction) : Prop where
  lexicon : Lexicon.Confined base s.lexicon
  program : s.rules.program = P

/-- Two analyses under way. -/
structure Runs (base : Lexicon) (P : RuleSet Construction) (w : World) (s t : Session Construction) :
    Prop where
  lexica : Lexicon.Twin base w s.lexicon t.lexicon
  rules : ∀ k, Forall₂ (Construction.Twin w.own) (s.rules.ofKind k) (t.rules.ofKind k)
  program : s.rules.program = P

/-- Outcomes of one operation of two analyses. -/
abbrev Agree {α : Type} (base : Lexicon) (P : RuleSet Construction) (V : World → α → α → Prop)
    (w : World) : EStateM.Result Error (Session Construction) α →
      EStateM.Result Error (Session Construction) α → Prop :=
  Outcome.Agree (Runs base P) (fun s t => Confined base P s ∧ Confined base P t) V w

namespace Runs

variable {base : Lexicon} {P : RuleSet Construction} {w : World} {s t : Session Construction}
  {α : Type} {V : World → α → α → Prop}

theorem left (h : Runs base P w s t) : Confined base P s :=
  ⟨h.lexica.left, h.program⟩

theorem right (h : Runs base P w s t) : Confined base P t := by
  refine ⟨h.lexica.right, h.program ▸ RuleSet.program_ext ?_⟩
  intro k
  rw [RuleSet.ofKind_program, RuleSet.ofKind_program, RulesM.forall₂_program_eq (h.rules k)]

theorem onLexicon (h : Runs base P w s t) {x y : LexiconM α}
    (hxy : Lexicon.Agree base V w (x s.lexicon) (y t.lexicon)) :
    Agree base P V w (SessionM.onLexicon x s) (SessionM.onLexicon y t) := by
  refine hxy.onPart (fun w' _ _ hw h' => ⟨h', fun k => ?_, h.program⟩)
    (fun _ _ he => ⟨⟨he.1, h.left.program⟩, he.2, h.right.program⟩) fun _ _ _ _ hV => hV
  exact (h.rules k).imp fun _ _ hc => hc.mono hw.1

theorem onKind (h : Runs base P w s t) (k : RuleKind) {x y : RulesM Construction α}
    (hxy : ∀ ps, RulesM.Runs base ps w (s.rules.ofKind k, s.lexicon) (t.rules.ofKind k, t.lexicon) →
      RulesM.Agree base ps V w (x (s.rules.ofKind k, s.lexicon)) (y (t.rules.ofKind k, t.lexicon))) :
    Agree base P V w (SessionM.onKind k x s) (SessionM.onKind k y t) := by
  have hright := h.right.program
  obtain rfl := h.program
  have hruns := hxy (s.rules.program.ofKind k) ⟨h.lexica, h.rules k, (s.rules.ofKind_program k).symm⟩
  refine hruns.onPart (fun w' a b hw h' => ⟨h'.lexica, fun k' => ?_, RuleSet.program_put h'.programs⟩)
    (fun a b he => ⟨⟨he.1.lexicon, RuleSet.program_put he.1.programs⟩, he.2.lexicon, ?_⟩)
    fun _ _ _ _ hV => hV
  · rw [RuleSet.ofKind_put, RuleSet.ofKind_put]
    split
    · exact h'.rules
    · exact (h.rules k').imp fun _ _ hc => hc.mono hw.1
  · rw [← hright] at he ⊢
    exact RuleSet.program_put he.2.programs

end Runs

end Session

/-! ## The main loop -/

namespace Activation

variable {base : Lexicon} {P : RuleSet Construction} {w : World} {s t : Session Construction}

open Session (Runs Agree)

theorem growth_eq (h : Runs base P w s t) : growth s = growth t := by
  have hslots : s.rules.filledSlots = t.rules.filledSlots :=
    List.rel_foldr (P := Eq) (fun _ _ hc _ _ hn => congrArg₂ (· + ·) hc.filledSlots_eq hn) rfl (h.rules .avm)
  unfold growth
  rw [h.lexica.order.length_eq, hslots]

theorem rel_pluginMachines (h : Runs base P w s t) :
    Forall₂ (fun x y => w.own x.1 y.1 ∧ x.2 = y.2) (pluginMachines s.lexicon)
      (pluginMachines t.lexicon) := by
  refine List.rel_filterMap (fun a b hab => ?_) h.lexica.order
  have hown := h.lexica.own_of_active hab
  rw [h.lexica.alike.control?_eq hown]
  split
  · exact .some ⟨hown, rfl⟩
  · exact .none

theorem iterate_twin (h : Runs base P w s t) (o : Options) :
    Agree base P (fun _ x y => x = y) w (iterate o s) (iterate o t) := by
  rw [iterate_eq]
  refine (h.onLexicon (expandPass_twin h.lexica)).bind fun w₁ n₁ m₁ s₁ t₁ _ h₁ hn₁ => ?_
  have hfire := h₁.onKind .semantic (x := RulesM.each (fire o.maxArity))
    (y := RulesM.each (fire o.maxArity)) fun ps hruns =>
      RulesM.forEach_twin (V := fun _ a b => a = b) hruns (fun _ _ _ _ _ hab => hab)
        fun w' p s t _ hrun => fire_twin hrun o.maxArity
  refine hfire.bind fun w₂ n₂ m₂ s₂ t₂ _ h₂ hn₂ => ?_
  have hoffer := h₂.onKind .avm (x := RulesM.each offerAll) (y := RulesM.each offerAll)
    fun ps hruns =>
      RulesM.forEach_twin (V := fun _ a b => a = b) hruns (fun _ _ _ _ _ hab => hab)
        fun w' p s t _ hrun => offerAll_twin hrun
  refine hoffer.bind fun w₃ n₃ m₃ s₃ t₃ _ h₃ hn₃ => ?_
  refine (h₃.onLexicon h₃.lexica.activate).bind fun w₄ n₄ m₄ s₄ t₄ _ h₄ hn₄ => ?_
  have hn₂' : n₂ = m₂ := List.forall₂_eq_eq_eq ▸ hn₂
  have hn₃' : n₃ = m₃ := List.forall₂_eq_eq_eq ▸ hn₃
  refine .ok h₄ ?_
  rw [hn₁, hn₂', hn₃', hn₄.length_eq, h₄.lexica.order.length_eq]

theorem saturate_twin (h : Runs base P w s t) (o : Options) (left number : Nat) (plugin : Option Nat) :
    Agree base P (fun _ x y => x = y) w (saturate o left number plugin s)
      (saturate o left number plugin t) := by
  induction left generalizing w s t number plugin with
  | zero => exact .pure h rfl
  | succ left ih =>
    rw [saturate_succ, saturate_succ]
    refine (iterate_twin h o).bind fun w' x y s' t' _ h' hxy => ?_
    subst hxy
    have hplugin : pluginAfter plugin number s'.lexicon = pluginAfter plugin number t'.lexicon := by
      rw [pluginAfter, pluginAfter, isEmpty_eq_of_rel (rel_pluginMachines h')]
    rw [growth_eq h, growth_eq h', hplugin]
    unfold proceed
    cases stop? o x.1 x.2 (pluginAfter plugin number t'.lexicon) number
      (decide (growth t < growth t')) with
    | some reason => exact .pure h' rfl
    | none =>
      refine (ih h' (number + 1) _).bind fun w'' x' y' s'' t'' _ h'' hxy => ?_
      exact .pure h'' (by rw [hxy])

/-! ## The run -/

theorem argument?_eq {v : Pairing} {g₁ g₂ : Graph} {m₁ m₂ : Machine} (h : Graph.Paired v g₁ g₂)
    (hm : m₁.Alike v m₂) (slot : PluginSlot) :
    PluginCall.argument? g₁ m₁ slot = PluginCall.argument? g₂ m₂ slot := by
  have hpart := hm.part slot.partition
  unfold PluginCall.argument?
  generalize m₁.part slot.partition = as at hpart
  generalize m₂.part slot.partition = bs at hpart
  cases hpart with
  | nil => rfl
  | cons hab _ => simp only [h.name?_eq hab]

theorem pluginMessage?_eq {v : Pairing} {g₁ g₂ : Graph} {a b : MachineId} (h : Graph.Paired v g₁ g₂)
    (hab : v a b) (call : PluginCall) : call.message? g₁ a = call.message? g₂ b := by
  obtain ⟨m₁, m₂, h₁, h₂, halike⟩ := h a b hab
  have hargument : PluginCall.argument? g₁ m₁ = PluginCall.argument? g₂ m₂ :=
    funext fun slot => argument?_eq h halike slot
  unfold PluginCall.message?
  rw [h₁, h₂, Option.bind_eq_bind, Option.bind_eq_bind, Option.bind_some, Option.bind_some, hargument]

theorem messages_eq (h : Runs base P w s t) : messages s = messages t := by
  have hplugin : (pluginMachines s.lexicon).filterMap (fun x => x.2.message? s.lexicon.graph x.1) =
      (pluginMachines t.lexicon).filterMap fun x => x.2.message? t.lexicon.graph x.1 := by
    refine filterMap_eq_of_rel (rel_pluginMachines h) ?_
    rintro ⟨a, call⟩ ⟨b, _⟩ ⟨hab, rfl⟩
    exact pluginMessage?_eq h.lexica.alike hab call
  have havm : (s.rules.avm.filterMap fun r => Rule.message? r s.lexicon.graph) =
      t.rules.avm.filterMap fun r => Rule.message? r t.lexicon.graph :=
    filterMap_eq_of_rel (h.rules .avm) fun _ _ hc => hc.message?_eq h.lexica.alike
  exact congrArg₂ (· ++ ·) hplugin havm

theorem unreduced_eq {R : MachineId → MachineId → Prop} {chunks₁ chunks₂ : List (List MachineId)}
    (h : Forall₂ (Forall₂ R) chunks₁ chunks₂) : unreduced chunks₁ = unreduced chunks₂ := by
  have hzip : ∀ n, Forall₂ (fun x y => Forall₂ R x.1 y.1 ∧ x.2 = y.2) (chunks₁.zipIdx n)
      (chunks₂.zipIdx n) := by
    induction h with
    | nil => exact fun _ => .nil
    | cons hchunk _ ih => exact fun n => .cons ⟨hchunk, rfl⟩ (ih (n + 1))
  refine filterMap_eq_of_rel (hzip 0) ?_
  rintro ⟨as, i⟩ ⟨bs, _⟩ ⟨hchunk, rfl⟩
  simp only [hchunk.length_eq]

theorem forall₂_of_flatten {R S : MachineId → MachineId → Prop}
    {chunks₁ chunks₂ : List (List MachineId)} (h : Forall₂ (Forall₂ R) chunks₁ chunks₂)
    (hflat : Forall₂ S chunks₁.flatten chunks₂.flatten) : Forall₂ (Forall₂ S) chunks₁ chunks₂ := by
  induction h with
  | nil => exact .nil
  | @cons as bs _ _ hchunk _ ih =>
    rw [List.flatten_cons, List.flatten_cons] at hflat
    have htake := List.forall₂_take as.length hflat
    have hdrop := List.forall₂_drop as.length hflat
    rw [List.take_left, hchunk.length_eq, List.take_left] at htake
    rw [List.drop_left, hchunk.length_eq, List.drop_left] at hdrop
    exact .cons htake (ih hdrop)

end Activation

/-- Two answers say the same, up to the names of the machines in the chunks. -/
structure Outcome.Twin (v : Pairing) (x y : Outcome) : Prop where
  chunks : Forall₂ (Forall₂ v) x.chunks y.chunks
  unreduced : x.unreduced = y.unreduced
  messages : x.messages = y.messages
  reductions : x.reductions = y.reductions
  iterations : x.iterations = y.iterations
  stop : x.stop = y.stop

namespace Activation

variable {base : Lexicon} {P : RuleSet Construction} {w : World} {s t : Session Construction}

open Session (Runs Agree)

theorem run_twin (h : Runs base P w s t) (o : Options) {chunks₁ chunks₂ : List (List MachineId)}
    (hchunks : Forall₂ (Forall₂ w.own) chunks₁ chunks₂) :
    Agree base P (fun w' x y => Outcome.Twin w'.own x y) w (run o chunks₁ s) (run o chunks₂ t) := by
  have hbudget : reductionBudget o chunks₁ = reductionBudget o chunks₂ := by
    unfold reductionBudget
    rw [(List.rel_flatten hchunks).length_eq]
  rw [run_eq, run_eq, hbudget]
  refine (h.onLexicon (h.lexica.addActive (List.rel_flatten hchunks))).bind
    fun w₁ _ _ s₁ t₁ _ h₁ hactive => ?_
  refine (h₁.onLexicon (h₁.lexica.agree_ask (reductionBudget o chunks₂))).bind
    fun w₂ budget _ s₂ t₂ hw₂ h₂ hsame => ?_
  subst hsame
  have hreduce := h₂.onKind .chunk (x := Chunk.reduceAll budget chunks₁) (y := Chunk.reduceAll budget chunks₂)
    fun ps hruns => Chunk.reduceAll_twin hruns _ (forall₂_of_flatten hchunks (hactive.imp hw₂.2))
  refine hreduce.bind fun w₃ x y s₃ t₃ _ h₃ hxy => ?_
  refine (saturate_twin h₃ o o.maxIterations 1 none).bind fun w₄ x' y' s₄ t₄ hw₄ h₄ hxy' => ?_
  have hown : Forall₂ (Forall₂ w₄.own) x.2 y.2 := hxy.2.imp fun _ _ hc => hc.imp fun _ _ hab =>
    hw₄.1 _ _ (h₃.lexica.own_of_active hab)
  refine .ok h₄ ⟨hown, unreduced_eq hown, messages_eq h₄, hxy.1, ?_, ?_⟩
  · rw [hxy']
  · rw [hxy']

end Activation

/-! ## The analysis -/

namespace Analysis

variable {base l₁ l₂ : Lexicon} {P : RuleSet Construction} {w : World} {s t : Session Construction}

theorem seedWords_twin (h : Lexicon.Twin base w l₁ l₂) (case? : Option String) (words : List Word) :
    Lexicon.Agree base (fun w' x y => Forall₂ w'.own x y) w (seedWords case? words l₁)
      (seedWords case? words l₂) := by
  induction words generalizing w l₁ l₂ with
  | nil => exact .pure h .nil
  | cons word words ih =>
    unfold seedWords
    refine (h.agree_ask (Control.ofTag word.tag)).bind fun w₁ x y s₁ t₁ _ h₁ hxy => ?_
    subst hxy
    refine (h₁.create _ _).bind fun w₂ a b s₂ t₂ _ h₂ hab => ?_
    refine (ih h₂).bind fun w₃ as bs s₃ t₃ hw₃ h₃ has => ?_
    exact .pure h₃ (.cons (hw₃.1 _ _ hab) has)

theorem seed_twin (h : Lexicon.Twin base w l₁ l₂) (sentence : List Phrase) :
    Lexicon.Agree base (fun w' x y => Forall₂ (Forall₂ w'.own) x y) w (seed sentence l₁)
      (seed sentence l₂) := by
  induction sentence generalizing w l₁ l₂ with
  | nil => exact .pure h .nil
  | cons phrase sentence ih =>
    unfold seed
    refine (seedWords_twin h phrase.case? phrase.words).bind fun w₁ as bs s₁ t₁ _ h₁ has => ?_
    refine (ih h₁).bind fun w₂ xs ys s₂ t₂ hw₂ h₂ hxys => ?_
    exact .pure h₂ (.cons (has.imp hw₂.1) hxys)

/-- Analyses that start as twins stay twins. -/
theorem analyze_twin (h : Session.Runs base P w (clear s) (clear t)) (o : Options)
    (sentence : List Phrase) :
    Session.Agree base P (fun w' x y => Outcome.Twin w'.own x y) w (analyze o sentence s)
      (analyze o sentence t) := by
  change Session.Agree base P _ w ((SessionM.onLexicon (seed sentence) >>= Activation.run o) (clear s))
    ((SessionM.onLexicon (seed sentence) >>= Activation.run o) (clear t))
  refine (h.onLexicon (seed_twin h.lexica sentence)).bind fun w' xs ys s' t' _ h' hxys => ?_
  exact Activation.run_twin h' o hxys

end Analysis

end MeaningGraph
