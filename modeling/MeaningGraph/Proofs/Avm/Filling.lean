/-
# A slot keeps the first machine that fits

A matrix goes through its slots on each offer, and passes over those that are filled.  For one slot this means

    value after the offers  =  value before, or else the first offered machine that the matcher accepts

whatever the other slots hold, as an offer to one slot does not look at another.  So the value of a slot of a
cleared matrix can be told from the list of offers alone, without going through them.

Two ways of offering come to the same: `fill` offers to all slots without asking, and a matrix rule asks first
whether some slot would take the machine (`accepts`) and acts only then.

What empties a slot again is told by the call (`Call.Empties`): clearing, and adding a slot of the same name.
-/
import MeaningGraph.Proofs.Activation.Settled

namespace MeaningGraph

/-! ## One slot -/

namespace AvmSlot

variable {g : Graph} {id : MachineId} {s : AvmSlot}

theorem offer_eq (g : Graph) (id : MachineId) (s : AvmSlot) :
    s.offer g id = { s with value := s.value.or (if s.matcher.accepts g id then some id else none) } := by
  obtain ⟨name, matcher, kind, default, value⟩ := s
  unfold offer takes isFilled
  cases value with
  | some held => rfl
  | none => cases matcher.accepts g id <;> simp

theorem offer_of_isFilled (h : s.isFilled = true) : s.offer g id = s := by
  unfold offer takes
  rw [h]
  rfl

end AvmSlot

namespace Avm

variable {a : Avm} {g : Graph} {id : MachineId} {i : Nat} {s : AvmSlot}

/-! ## Offers one after the other -/

/-- Offers machines one after the other; the counts are those that `fill` answers. -/
def fillEach (g : Graph) : List MachineId → Avm → List Nat × Avm
  | [], a => ([], a)
  | id :: ids, a =>
    let (count, a) := a.fill g id
    let (counts, a) := fillEach g ids a
    (count :: counts, a)

/-- The induction is on the offers; a slot that takes the first of them is filled for the rest. -/
theorem fillEach_snd (a : Avm) (g : Graph) (ids : List MachineId) :
    (a.fillEach g ids).2 =
      { a with slots := a.slots.map fun s =>
          { s with value := s.value.or (ids.find? fun id => s.matcher.accepts g id) } } := by
  induction ids generalizing a with
  | nil => simp [fillEach]
  | cons id ids ih =>
    have hcons : (a.fillEach g (id :: ids)).2 = ((a.fill g id).2.fillEach g ids).2 := rfl
    rw [hcons, ih]
    unfold fill
    simp only [List.map_map]
    congr 1
    refine List.map_congr_left fun s _ => ?_
    rw [Function.comp_apply, AvmSlot.offer_eq, List.find?_cons]
    cases s.matcher.accepts g id <;> simp

theorem filledCount_fillEach (a : Avm) (g : Graph) (ids : List MachineId) :
    (a.fillEach g ids).2.filledCount = a.filledCount + (a.fillEach g ids).1.sum := by
  induction ids generalizing a with
  | nil => rfl
  | cons id ids ih =>
    have hcons : a.fillEach g (id :: ids) =
      ((a.fill g id).1 :: ((a.fill g id).2.fillEach g ids).1, ((a.fill g id).2.fillEach g ids).2) := rfl
    rw [hcons, ih, filledCount_fill, List.sum_cons, Nat.add_assoc]

theorem filledCount_clear (a : Avm) : a.clear.filledCount = 0 := by
  unfold filledCount clear
  rw [List.countP_map, List.countP_eq_zero]
  intro s _
  exact Bool.false_ne_true

/-! ## What empties a slot -/

/-- A call on a matrix. -/
inductive Call where
  | addSlot (name : String) (matcher : Matcher) (kind : SlotKind) (default : Option String)
  | fill (g : Graph) (id : MachineId)
  | clear

def call (a : Avm) : Call → Avm
  | .addSlot name matcher kind default => a.addSlot name matcher kind default
  | .fill g id => (a.fill g id).2
  | .clear => a.clear

def replay (a : Avm) (history : List Call) : Avm :=
  history.foldl call a

/-- The call empties the slot of that name. -/
def Call.Empties (name : String) : Call → Prop
  | .addSlot added _ _ _ => added = name
  | .fill _ _ => False
  | .clear => True

instance (name : String) : DecidablePred (Call.Empties name)
  | .addSlot added _ _ _ => inferInstanceAs (Decidable (added = name))
  | .fill _ _ => inferInstanceAs (Decidable False)
  | .clear => inferInstanceAs (Decidable True)

theorem getElem?_putSlot {slots : List AvmSlot} {slot : AvmSlot} (hs : slots[i]? = some s)
    (hname : slot.name ≠ s.name) : (putSlot slot slots)[i]? = some s := by
  induction slots generalizing i with
  | nil => cases hs
  | cons first slots ih =>
    unfold putSlot
    cases i with
    | zero =>
      cases hs
      rw [if_neg hname.symm]
      rfl
    | succ i =>
      split
      · exact hs
      · exact ih hs

theorem getElem?_call {c : Call} (hs : a.slots[i]? = some s) (hfilled : s.isFilled = true)
    (hc : ¬c.Empties s.name) : (a.call c).slots[i]? = some s := by
  cases c with
  | addSlot name matcher kind default => exact getElem?_putSlot hs hc
  | fill g id =>
    change (a.slots.map (·.offer g id))[i]? = some s
    rw [List.getElem?_map, hs, Option.map_some, AvmSlot.offer_of_isFilled hfilled]
  | clear => exact absurd trivial hc

theorem getElem?_replay {history : List Call} (hs : a.slots[i]? = some s) (hfilled : s.isFilled = true)
    (hhistory : ∀ c ∈ history, ¬c.Empties s.name) : (a.replay history).slots[i]? = some s := by
  induction history generalizing a with
  | nil => exact hs
  | cons c history ih =>
    obtain ⟨hc, hrest⟩ := List.forall_mem_cons.1 hhistory
    exact ih (getElem?_call hs hfilled hc) hrest

/-! ## Asking first -/

theorem fill_of_not_accepts (h : a.accepts g id = false) : (a.fill g id).2 = a := by
  have hslots : a.slots.map (·.offer g id) = a.slots := by
    refine (List.map_congr_left fun s hs => ?_).trans (List.map_id _)
    have htakes : s.takes g id = false := Bool.eq_false_iff.2 (List.any_eq_false.1 h s hs)
    unfold AvmSlot.offer
    rw [htakes]
    rfl
  unfold fill
  rw [hslots]

/-- A rule that acts only when its check passes fills its matrix as offers without a check do. -/
theorem offerEach_eq_fillEach (r : AvmRule) (ids : List MachineId) (l : Lexicon) :
    Activation.offerEach ids (Construction.avm r, l) =
      .ok () (Construction.avm { r with avm := (r.avm.fillEach l.graph ids).2 }, l) := by
  induction ids generalizing r with
  | nil => rfl
  | cons id ids ih =>
    have hcons : (r.avm.fillEach l.graph (id :: ids)).2 =
      ((r.avm.fill l.graph id).2.fillEach l.graph ids).2 := rfl
    rw [Activation.offerEach_avm_cons, hcons]
    cases haccepts : r.avm.accepts l.graph id with
    | true => exact ih _
    | false =>
      rw [fill_of_not_accepts haccepts]
      exact ih r

/-- After any offers over one graph, each slot of a cleared matrix holds the first machine offered that its matcher
accepts, or is empty where there is none, and nothing else of the matrix has changed.  As many slots are filled as
the offers counted.  An offer empties no slot, and it is known beforehand whether it will fill any.  A filled slot
stays as it is through all calls but those that empty it.  A matrix rule that was reset comes to the same, though it
acts only when its check passes. -/
theorem fillEach_first_fit (a : Avm) (g : Graph) (ids : List MachineId) :
    (a.clear.fillEach g ids).2 =
      { a with slots := a.slots.map fun s => { s with value := ids.find? fun id => s.matcher.accepts g id } } ∧
    (a.clear.fillEach g ids).2.filledCount = (a.clear.fillEach g ids).1.sum ∧
    (∀ (b : Avm) (id : MachineId),
      b.filledCount ≤ (b.fill g id).2.filledCount ∧ (b.accepts g id = true ↔ 0 < (b.fill g id).1)) ∧
    (∀ (b : Avm) (i : Nat) (s : AvmSlot) (history : List Call), b.slots[i]? = some s → s.isFilled = true →
      (∀ c ∈ history, ¬c.Empties s.name) → (b.replay history).slots[i]? = some s) ∧
    ∀ (name : String) (l : Lexicon), l.graph = g →
      Activation.offerEach ids (Rule.reset (Construction.avm ⟨name, a⟩), l) =
        .ok () (Construction.avm ⟨name, (a.clear.fillEach g ids).2⟩, l) := by
  refine ⟨?_, ?_, ?_, ?_, ?_⟩
  · rw [fillEach_snd]
    unfold clear
    rw [List.map_map]
    rfl
  · rw [filledCount_fillEach, filledCount_clear, Nat.zero_add]
  · intro b id
    refine ⟨?_, b.accepts_iff g id⟩
    rw [filledCount_fill]
    exact Nat.le_add_right ..
  · exact fun b i s history => getElem?_replay
  · rintro name l rfl
    exact offerEach_eq_fillEach ⟨name, a.clear⟩ ids l

/-- A train and a depot. -/
def trainAndDepot : Graph :=
  ((Graph.empty.create "train" none).2.create "depot" none).2

/-- The slots `from` and `by` both take the train, and `via`, which is to stay empty, takes the depot, as `from`
does; no machine fits `to`. -/
def timetable : Avm :=
  ((((empty.addSlot "from" (.member ["train", "depot"]) .required none).addSlot
    "to" (.member ["harbour"]) .required none).addSlot "by" (.member ["train"]) .optional (some "tram")).addSlot
    "via" (.member ["depot"]) .negative none)

/-- The train comes twice and fills its two slots the first time.  Adding another `to` leaves `from` as it is. -/
theorem fillEach_first_fit_timetable :
    (timetable.clear.fillEach trainAndDepot [⟨0, 1⟩, ⟨0, 1⟩, ⟨1, 1⟩, ⟨2, 1⟩]).2.slots.map (fun s => (s.name, s.value)) =
      [("from", some ⟨0, 1⟩), ("to", none), ("by", some ⟨0, 1⟩), ("via", some ⟨1, 1⟩)] ∧
      (timetable.clear.fillEach trainAndDepot [⟨0, 1⟩, ⟨0, 1⟩, ⟨1, 1⟩, ⟨2, 1⟩]).1 = [2, 0, 1, 0] ∧
      (timetable.clear.fillEach trainAndDepot [⟨0, 1⟩, ⟨0, 1⟩, ⟨1, 1⟩, ⟨2, 1⟩]).2.filledCount = 3 ∧
      (((timetable.fill trainAndDepot ⟨0, 1⟩).2.replay
        [.fill trainAndDepot ⟨1, 1⟩, .addSlot "to" (.member ["depot"]) .required none]).slots[0]?).map (·.value) =
        some (some ⟨0, 1⟩) ∧
      ∃ r, Activation.offerEach [⟨0, 1⟩, ⟨0, 1⟩, ⟨1, 1⟩, ⟨2, 1⟩]
          (Rule.reset (Construction.avm ⟨"trip", timetable⟩), { Lexicon.empty with graph := trainAndDepot }) =
        .ok () (Construction.avm r, { Lexicon.empty with graph := trainAndDepot }) ∧ r.avm.filledCount = 3 := by
  obtain ⟨hslots, hcount, -, hkept, hdriver⟩ :=
    fillEach_first_fit timetable trainAndDepot [⟨0, 1⟩, ⟨0, 1⟩, ⟨1, 1⟩, ⟨2, 1⟩]
  have hcounts : (timetable.clear.fillEach trainAndDepot [⟨0, 1⟩, ⟨0, 1⟩, ⟨1, 1⟩, ⟨2, 1⟩]).1 = [2, 0, 1, 0] := by
    decide
  rw [hcounts] at hcount
  refine ⟨?_, hcounts, hcount, ?_, _, hdriver "trip" _ rfl, hcount⟩
  · rw [hslots]
    decide
  · rw [hkept _ 0 ⟨"from", .member ["train", "depot"], .required, none, some ⟨0, 1⟩⟩ _ rfl rfl]
    · rfl
    · decide

end Avm

end MeaningGraph
