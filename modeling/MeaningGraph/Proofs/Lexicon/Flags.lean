/-
# Flags are set and not taken back

An active machine is flagged once it was expanded.  A flag is a part of the machine's entry, so it goes when the
entry goes:

    clear          all entries go
    unify          the entry of the machine that is folded goes, unless folding fails
    merge          folds a machine only if it is not active, so an entry that goes had no flag
    release        the entry stays, and is not read any more when the machine is freed

Everything else that happens to an entry is that its flag is set.  So a machine that is active after a call has the
flag that it had before (`flagged_call`), and keeps it for as long as it stays active (`flagged_replay`).
-/
import MeaningGraph.Proofs.Lexicon.Standing

namespace MeaningGraph.Lexicon

open Outcome

variable {l l' : Lexicon} {id : MachineId} {name : String} {history : List Call}

/-! ## Flags, change by change -/

/-- The machine is live, and its entry says that it was expanded. -/
def Flagged (l : Lexicon) (id : MachineId) : Prop :=
  ∃ name, l.graph.name? id = some name ∧ ⟨id, true⟩ ∈ l.entries name

theorem Flagged.isActive (h : l.Flagged id) : l.isActive id = true := by
  obtain ⟨name, hname, he⟩ := h
  exact isActive_iff.2 ⟨name, hname, _, he, rfl⟩

theorem Flagged.mono (h : l.Flagged id)
    (hname : ∀ name, l.graph.name? id = some name → l'.graph.name? id = some name)
    (hentries : ∀ name, ⟨id, true⟩ ∈ l.entries name → ⟨id, true⟩ ∈ l'.entries name) : l'.Flagged id := by
  obtain ⟨name, hid, he⟩ := h
  exact ⟨name, hname name hid, hentries name he⟩

theorem active_changeGraph (f : Graph → Except Error Graph) (l : Lexicon) :
    (state (changeGraph f l)).active = l.active := by
  unfold changeGraph
  cases f l.graph <;> rfl

theorem Changes.flagged_of_active (h : Changes l l') (hl : l.Sound) (hactive : l'.active = l.active)
    (hid : l.Flagged id) : l'.Flagged id := by
  refine hid.mono (fun name hname => ?_) fun name he => ?_
  · have hlive := Graph.contains_of_name? hname
    rw [(Changes.evolves h hl).name?_eq hlive (Changes.contains h hl hlive), hname]
  · rwa [entries_congr hactive]

theorem Gain.flagged (h : Gain l l') (hl : l.Sound) (hid : l.Flagged id) : l'.Flagged id := by
  rcases h.cases_active with ⟨hactive, -⟩ | ⟨name, other, -, rfl⟩ | ⟨name, other, -, rfl⟩
  · exact Changes.flagged_of_active (.single (.gain h)) hl hactive hid
  · refine hid.mono (fun _ hname => graph_register name other l ▸ hname) fun name' he => ?_
    by_cases hmem : other ∈ l.instances name
    · rwa [register_of_mem hmem]
    · rw [register_of_not_mem hmem, entries_insert]
      split
      · rename_i heq
        exact List.mem_append_left _ (heq ▸ he)
      · exact he
  · refine hid.mono (fun _ hname => hname) fun name' he => ?_
    rw [entries_insert l name _ l.order]
    split
    · rename_i heq
      exact ActiveEntry.mem_map_expand_iff.2 (.inl (heq ▸ he))
    · exact he

theorem Gains.flagged (h : Gains l l') (hl : l.Sound) (hid : l.Flagged id) : l'.Flagged id := by
  induction h with
  | refl => exact hid
  | tail hs h ih => exact h.flagged ((Gains.changes hs).evolves hl).sound ih

theorem Flagged.drop {other : MachineId} (h : l.Flagged id) (hne : id ≠ other) (name : String) :
    (drop name other l).Flagged id := by
  refine h.mono (fun _ hname => hname) fun name' he => ?_
  rw [entries_drop]
  split
  · rename_i heq
    exact List.mem_filter.2 ⟨heq ▸ he, decide_eq_true hne⟩
  · exact he

theorem not_isActive_drop (hname : l.graph.name? id = some name) : (drop name id l).isActive id = false := by
  refine Bool.eq_false_iff.2 fun hactive => ?_
  obtain ⟨name', hname', e, he, hmachine⟩ := isActive_iff.1 hactive
  obtain rfl : name = name' := Option.some.inj (hname.symm.trans hname')
  rw [entries_drop, if_pos rfl] at he
  exact of_decide_eq_true (List.mem_filter.1 he).2 hmachine

theorem flagged_unify {keep merge : MachineId} (hl : l.Sound) (hid : l.Flagged id) :
    (state (unify keep merge l)).Flagged id ∨
      id = merge ∧ (state (unify keep merge l)).isActive id = false := by
  rw [unify_eq]
  split
  · exact .inl hid
  · cases hfold : l.graph.fold keep merge with
    | error e =>
      rw [changeGraph_bind_error hfold]
      exact .inl hid
    | ok g =>
      have hfolded : Flagged { l with graph := g } id :=
        (changes_fold hfold).flagged_of_active hl rfl hid
      rw [bind_eq_of_ok (changeGraph_of_ok hfold)]
      cases hname : g.name merge with
      | error e =>
        rw [ask_bind_error hname]
        exact .inl hfolded
      | ok name =>
        rw [ask_bind hname]
        by_cases heq : id = merge
        · subst heq
          exact .inr ⟨rfl, not_isActive_drop (Graph.name?_of_name hname)⟩
        · exact .inl (hfolded.drop heq name)

/-! ## Flags, call by call -/

/-- The lexicon stays in order, and flags stay set. -/
def KeepsFlags (l l' : Lexicon) : Prop :=
  l'.Sound ∧ ∀ id, l.Flagged id → l'.Flagged id

theorem KeepsFlags.trans {l'' : Lexicon} (h : KeepsFlags l l') (h' : KeepsFlags l' l'') : KeepsFlags l l'' :=
  ⟨h'.1, fun id hid => h'.2 id (h.2 id hid)⟩

theorem keepsFlags_merge (hl : l.Sound) (id : MachineId) : KeepsFlags l (state (merge id l)) := by
  refine ⟨(KeepsSound.merge id l hl).state.sound, fun other hother => ?_⟩
  rw [merge_eq, get_bind]
  split
  · exact hother
  · rename_i hinactive
    have hne : other ≠ id := by
      rintro rfl
      exact hinactive hother.isActive
    cases hname : l.graph.name id with
    | error e =>
      rw [ask_bind_error hname]
      exact hother
    | ok name =>
      rw [ask_bind hname, get_bind]
      cases l.firstInstance? name with
      | some existing =>
        have hunify : (state ((unify existing id >>= fun _ => pure existing) l)).Flagged other := by
          rw [state_bind_pure]
          exact (flagged_unify hl hother).resolve_right fun h => hne h.1
        exact hunify
      | none =>
        have hadd : (state ((addActive [id] >>= fun _ => pure id) l)).Flagged other := by
          rw [state_bind_pure]
          exact (gains_addActive [id] l).flagged hl hother
        exact hadd

theorem keepsFlags_mergeActive (hl : l.Sound) (ids : List MachineId) :
    Keeps KeepsFlags (fun _ _ => True) l (mergeActive ids l) := by
  induction ids generalizing l with
  | nil => exact ⟨⟨hl, fun _ hid => hid⟩, trivial⟩
  | cons id ids ih =>
    have hone : Keeps KeepsFlags (fun _ _ => True) l (merge id l) :=
      keeps_of_state (keepsFlags_merge hl id) fun _ _ _ => trivial
    refine hone.bind KeepsFlags.trans fun one l₁ h₁ _ => ?_
    exact (ih h₁.1).bind KeepsFlags.trans fun more l₂ h₂ _ => ⟨⟨h₂.1, fun _ hid => hid⟩, trivial⟩

/-- A machine that is active before and after a call has its flag after it, if it had it before. -/
theorem flagged_call (c : Call) (hl : l.Sound) (hid : l.Flagged id)
    (hactive : (l.call c).isActive id = true) : (l.call c).Flagged id := by
  cases c with
  | create name control => exact (gains_create name control l).flagged hl hid
  | append p c i => exact (gains_append p c i l).flagged hl hid
  | setControl id control => exact (gains_setControl id control l).flagged hl hid
  | deepCopy root => exact (gains_deepCopy root l).flagged hl hid
  | addStatic ids => exact (gains_addStatic ids l).flagged hl hid
  | addActive ids => exact (gains_addActive ids l).flagged hl hid
  | expand id => exact (gains_expand id l).flagged hl hid
  | activate => exact (gains_activate l).flagged hl hid
  | mergeActive ids => exact (keepsFlags_mergeActive hl ids).state.2 id hid
  | remove p c i =>
    have hremove : Changes l (l.call (.remove p c i)) :=
      within_changeGraph (fun _ _ h => .single (.remove h)) l
    exact hremove.flagged_of_active hl (active_changeGraph _ l) hid
  | removeEverywhere p c =>
    have hremove : Changes l (l.call (.removeEverywhere p c)) :=
      within_changeGraph (fun _ _ h => .single (.removeEverywhere h)) l
    exact hremove.flagged_of_active hl (active_changeGraph _ l) hid
  | unify keep merge =>
    refine (flagged_unify hl hid).resolve_right ?_
    rintro ⟨-, hinactive⟩
    rw [call, hinactive] at hactive
    cases hactive
  | retain roots =>
    obtain ⟨name, hname, -⟩ := isActive_iff.1 hactive
    have hlive := Graph.contains_of_name? hname
    refine hid.mono (fun name' hname' => ?_) fun _ he => he
    rw [(hl.evolves_call (.retain roots)).name?_eq (Graph.contains_of_name? hname') hlive, hname']
  | clearActive =>
    obtain ⟨name, -, e, he, -⟩ := isActive_iff.1 hactive
    exact (List.not_mem_nil he).elim

/-- While a machine stays active its flag stays set; the induction is on the calls made meanwhile. -/
theorem flagged_replay {n m : Nat} (hnm : n ≤ m)
    (hactive : ∀ k, n ≤ k → k ≤ m → (empty.replay (history.take k)).isActive id = true)
    (hid : (empty.replay (history.take n)).Flagged id) : (empty.replay (history.take m)).Flagged id := by
  induction m, hnm using Nat.le_induction with
  | base => exact hid
  | succ m hnm ih =>
    have hbefore := ih fun k hnk hkm => hactive k hnk (Nat.le_succ_of_le hkm)
    cases hc : history[m]? with
    | none =>
      rwa [List.take_add_one, hc, Option.toList_none, List.append_nil]
    | some c =>
      have hnow := hactive (m + 1) (Nat.le_succ_of_le hnm) (Nat.le_refl _)
      rw [replay_take_succ history hc] at hnow ⊢
      exact flagged_call c (sound_empty.evolves_replay _).sound hbefore hnow

end MeaningGraph.Lexicon
