/-
# What an act leaves behind

A rule that acts leaves links behind by which it knows the sequence again:

    append     the head holds the modifier
    verb       the verb holds all other machines of the sequence, in partitions of its arguments
    trigger    the plugin machine holds the machines, and calls the endpoint of the rule

While these stand (`Stands`), in the graph that the act left or in a later one, the last check of the rule refuses
the sequence.  A name never changes, so the verb's token is found again; and the instance that stands in for a
missing token has the verb's name, as it was filed under it.  The control of a plugin machine can change: a trigger
rule refuses the sequence only as long as the machine still calls the endpoint.
-/
import Mathlib.Data.List.Find
import MeaningGraph.Proofs.Lexicon.WorkingSet
import MeaningGraph.Proofs.Rule.Hypercube

namespace MeaningGraph

open Lexicon (Filed changeGraph changeGraph_ok ask_ok get_bind)
open Outcome (steps_of_ok)

variable {l l' : Lexicon} {g g' : Graph} {seq new : List MachineId} {id : MachineId}

/-! ## What stands -/

namespace Graph

/-- The machines that an act answered hold what they held of the sequence. -/
def Stands (g g' : Graph) (made seq : List MachineId) : Prop :=
  ∀ p ∈ made, ∀ c ∈ seq, ∀ i, g.Holds p i c → g'.Holds p i c

theorem Stands.refl (g : Graph) (made seq : List MachineId) : Stands g g made seq :=
  fun _ _ _ _ _ hold => hold

/-- Links are added, and the controls stay. -/
structure Extends (g g' : Graph) : Prop where
  holds : ∀ x i y, g.Holds x i y → g'.Holds x i y
  control : ∀ x, g'.control? x = g.control? x

theorem Extends.refl (g : Graph) : Extends g g where
  holds _ _ _ hold := hold
  control _ := rfl

theorem Extends.trans {g'' : Graph} (h : Extends g g') (h' : Extends g' g'') : Extends g g'' where
  holds x i y hold := h'.holds x i y (h.holds x i y hold)
  control x := (h'.control x).trans (h.control x)

theorem extends_append {p c : MachineId} {i : Nat} (happ : g.append p c i = .ok g') : Extends g g' where
  holds _ _ _ hold := (holds_append happ).2 (.inl hold)
  control x := control?_append happ x

end Graph

open MeaningGraph.Graph (Stands Extends extends_append)

/-! ## Append rules -/

namespace AppendRule

variable {r : AppendRule} {first second : MachineId}

theorem roles_mem (r : AppendRule) (first second : MachineId) :
    (r.roles first second).1 ∈ [first, second] := by
  unfold roles
  cases r.direction <;> simp

theorem lastCheck_of_holds
    (h : g.Holds (r.roles first second).2 r.partition (r.roles first second).1) :
    r.lastCheck g [first, second] = false := by
  obtain ⟨m, hm, hmem⟩ := h
  simp [lastCheck, hm, hmem]

theorem lastCheck_of_act (hact : r.act seq l = .ok (some new) l') (h : Stands l'.graph g new seq) :
    r.lastCheck g seq = false := by
  by_cases hpair : ∃ first second, seq = [first, second]
  · obtain ⟨first, second, rfl⟩ := hpair
    rw [act_pair] at hact
    split at hact
    · obtain ⟨_, l₁, happend, hend⟩ := steps_of_ok hact
      cases hend
      obtain ⟨g₁, hg, rfl⟩ := changeGraph_ok happend
      have hold := (Graph.holds_append hg).2 (.inr ⟨rfl, rfl, rfl⟩)
      exact lastCheck_of_holds (h _ List.mem_cons_self _ (r.roles_mem first second) _ hold)
    · cases hact
  · exact lastCheck_of_ne_pair fun first second hseq => hpair ⟨first, second, hseq⟩

end AppendRule

/-! ## Verb rules -/

namespace VerbRule

variable {r : VerbRule} {token : Option MachineId} {args : List MachineId} {slots : List Nat}
  {verb : MachineId}

/-- The last check refuses a sequence when it has machines beside the token, and all of these are linked. -/
theorem lastCheck_eq_false_iff :
    r.lastCheck g seq = false ↔
      (∃ id ∈ seq, some id ≠ seq.find? (r.isVerb g)) ∧
        ∀ id ∈ seq, some id ≠ seq.find? (r.isVerb g) → r.isLinked g (seq.find? (r.isVerb g)) id = true := by
  simp [lastCheck, or_iff_not_imp_left]

/-- The machines beside the token. -/
def others (r : VerbRule) (g : Graph) (seq : List MachineId) : List MachineId :=
  seq.eraseP (r.isVerb g)

theorem isVerb_of_name {name : String} (h : g.name id = .ok name) :
    r.isVerb g id = decide (name = r.verb) := by
  rw [isVerb, Graph.name?_of_name h]
  exact Bool.eq_iff_iff.2 (by simp)

/-- The first machine of the verb's name is the token, and the others are left.  Where there is none, all were
looked at. -/
theorem split_ok (h : r.split g seq = .ok (token, args)) :
    token = seq.find? (r.isVerb g) ∧ args = r.others g seq ∧
      (token = none → ∀ id ∈ seq, g.contains id = true) := by
  induction seq generalizing token args with
  | nil =>
    cases h
    exact ⟨rfl, rfl, fun _ _ hid => (List.not_mem_nil hid).elim⟩
  | cons id ids ih =>
    obtain ⟨name, hname, h⟩ := Outcome.ok_of_bind h
    have hisVerb := isVerb_of_name (r := r) hname
    by_cases heq : name = r.verb
    · simp only [heq, if_true] at h
      cases h
      have hyes : r.isVerb g id = true := hisVerb.trans (decide_eq_true heq)
      exact ⟨(List.find?_cons_of_pos hyes).symm, (List.eraseP_cons_of_pos hyes).symm, fun hnone => nomatch hnone⟩
    · simp only [heq, if_false] at h
      obtain ⟨⟨token', rest⟩, hsplit, h⟩ := Outcome.ok_of_bind h
      cases h
      obtain ⟨htoken, hrest, hlive⟩ := ih hsplit
      have hno : ¬ r.isVerb g id = true := by
        rw [hisVerb]
        exact fun hyes => heq (of_decide_eq_true hyes)
      refine ⟨by rw [List.find?_cons_of_neg hno, htoken], ?_, ?_⟩
      · rw [others, List.eraseP_cons_of_neg hno, hrest]
        rfl
      · intro hnone
        exact List.forall_mem_cons.2 ⟨Graph.contains_of_name? (Graph.name?_of_name hname), hlive hnone⟩

theorem mem_others (hnodup : seq.Nodup) :
    id ∈ r.others g seq ↔ id ∈ seq ∧ some id ≠ seq.find? (r.isVerb g) := by
  induction seq with
  | nil => simp [others]
  | cons x xs ih =>
    obtain ⟨hnew, hnodup⟩ := List.nodup_cons.1 hnodup
    by_cases hx : r.isVerb g x = true
    · rw [others, List.eraseP_cons_of_pos hx, List.find?_cons_of_pos hx]
      constructor
      · intro hid
        refine ⟨List.mem_cons_of_mem _ hid, ?_⟩
        rintro ⟨⟩
        exact hnew hid
      · rintro ⟨hid, hne⟩
        exact (List.mem_cons.1 hid).resolve_left fun heq => hne (congrArg some heq)
    · rw [others, List.eraseP_cons_of_neg hx, List.find?_cons_of_neg hx, List.mem_cons, List.mem_cons,
        show id ∈ xs.eraseP (r.isVerb g) ↔ _ from ih hnodup]
      constructor
      · rintro (rfl | hid)
        · exact ⟨.inl rfl, fun heq => hnew (List.mem_of_find?_eq_some heq.symm)⟩
        · exact ⟨.inr hid.1, hid.2⟩
      · rintro ⟨rfl | hid, hne⟩
        · exact .inl rfl
        · exact .inr ⟨hid, hne⟩

/-- The first machine is given an argument that takes it and is not used, and the others are given theirs after that.
Were the first given an argument of a lower number, there would be none left for one of the others. -/
theorem assign_cons {ids : List MachineId} {used : List Nat}
    (h : r.assign g (id :: ids) used = some slots) :
    ∃ k more, slots = k :: more ∧ Takes r.arguments g id k ∧ k ∉ used ∧
      r.assign g ids (k :: used) = some more ∧
      ∀ j < k, Takes r.arguments g id j → j ∉ used → r.assign g ids (j :: used) = none := by
  obtain ⟨before, ⟨a, k⟩, after, hsplit, hk, hbefore⟩ := List.findSome?_eq_some_iff.1 h
  dsimp only at hk
  split at hk
  · cases hk
  · rename_i hfree
    obtain ⟨more, hmore, rfl⟩ := Option.map_eq_some_iff.1 hk
    simp only [Bool.or_eq_true, List.contains_iff_mem, Bool.not_eq_true', not_or, Bool.not_eq_false] at hfree
    have hmem : (a, k) ∈ r.arguments.zipIdx := hsplit ▸ List.mem_append_right _ List.mem_cons_self
    refine ⟨k, more, rfl, ⟨a, List.mk_mem_zipIdx_iff_getElem?.1 hmem, hfree.2⟩, hfree.1, hmore, ?_⟩
    rintro j hjk ⟨b, hb, haccepts⟩ hj
    -- the arguments are tried in the order of their numbers
    have hordered : r.arguments.zipIdx.Pairwise fun x y => x.2 < y.2 := by
      rw [← List.pairwise_map, List.zipIdx_map_snd]
      exact List.pairwise_lt_range'
    rw [hsplit, List.pairwise_append, List.pairwise_cons] at hordered
    have hbj : (b, j) ∈ before ++ (a, k) :: after := hsplit ▸ List.mk_mem_zipIdx_iff_getElem?.2 hb
    have hearlier : (b, j) ∈ before := by
      refine (List.mem_append.1 hbj).resolve_right fun hlater => ?_
      rcases List.mem_cons.1 hlater with heq | hlater
      · cases heq
        exact Nat.lt_irrefl _ hjk
      · exact Nat.lt_asymm hjk (hordered.2.1.1 _ hlater)
    have hnone := hbefore _ hearlier
    simpa [hj, haccepts] using hnone

theorem gives_of_assign {used : List Nat} (h : r.assign g args used = some slots) :
    Gives r.arguments g args slots ∧ ∀ k ∈ slots, k ∉ used := by
  induction args generalizing used slots with
  | nil =>
    cases h
    exact ⟨⟨.nil, List.nodup_nil⟩, fun k hk => (List.not_mem_nil hk).elim⟩
  | cons id ids ih =>
    obtain ⟨k, more, rfl, htakes, hfree, hmore, -⟩ := assign_cons h
    obtain ⟨hgives, hunused⟩ := ih hmore
    refine ⟨gives_cons.2 ⟨htakes, hgives, fun hmem => hunused k hmem List.mem_cons_self⟩, ?_⟩
    intro j hj
    rcases List.mem_cons.1 hj with rfl | hj
    · exact hfree
    · exact fun hused => hunused j hj (List.mem_cons_of_mem _ hused)

theorem link_ok {links : List (MachineId × Nat)} {u : Unit} (h : r.link verb links l = .ok u l') :
    Extends l.graph l'.graph ∧
      ∀ id k a, (id, k) ∈ links → r.arguments[k]? = some a → l'.graph.Holds verb a.partition id := by
  induction links generalizing l with
  | nil =>
    cases h
    exact ⟨.refl _, fun _ _ _ hmem => (List.not_mem_nil hmem).elim⟩
  | cons link links ih =>
    obtain ⟨id, k⟩ := link
    unfold VerbRule.link at h
    cases ha : r.arguments[k]? with
    | none =>
      simp only [ha] at h
      obtain ⟨hextends, hlinks⟩ := ih h
      refine ⟨hextends, ?_⟩
      intro x j b hmem hb
      rcases List.mem_cons.1 hmem with heq | hmem
      · cases heq
        rw [ha] at hb
        cases hb
      · exact hlinks x j b hmem hb
    | some a =>
      simp only [ha] at h
      obtain ⟨_, l₁, hone, hrest⟩ := steps_of_ok h
      obtain ⟨g₁, happ, rfl⟩ := changeGraph_ok hone
      obtain ⟨hextends, hlinks⟩ := ih hrest
      refine ⟨(extends_append happ).trans hextends, ?_⟩
      intro x j b hmem hb
      rcases List.mem_cons.1 hmem with heq | hmem
      · cases heq
        rw [ha] at hb
        cases hb
        exact hextends.holds _ _ _ ((Graph.holds_append happ).2 (.inr ⟨rfl, rfl, rfl⟩))
      · exact hlinks x j b hmem hb

theorem holds_of_linkAll {control : Option Control} {answer : Option (List MachineId)}
    (hassign : r.assign g args [] = some slots) (h : r.linkAll verb control args slots l = .ok answer l') :
    ∀ id ∈ args, ∃ a ∈ r.arguments, l'.graph.Holds verb a.partition id := by
  obtain ⟨-, l₁, -, hlink⟩ := linkAll_cases h
  intro id hid
  obtain ⟨hlen, htakes⟩ := List.forall₂_iff_zip.1 (gives_of_assign hassign).1.takes
  obtain ⟨i, hi, rfl⟩ := List.mem_iff_getElem.1 hid
  have hi' : i < (args.zip slots).length := by simp [← hlen, hi]
  have hzip := List.getElem_mem hi'
  rw [List.getElem_zip] at hzip
  obtain ⟨a, ha, -⟩ := htakes hzip
  exact ⟨a, List.mem_of_getElem? ha, (link_ok hlink).2 _ _ a hzip ha⟩

theorem isLinked_of_holds (h : g.Sound) {a : Argument} (ha : a ∈ r.arguments)
    (hold : g.Holds verb a.partition id) (hverb : token = some verb ∨ token = none ∧ g.name? verb = some r.verb) :
    r.isLinked g token id = true := by
  obtain ⟨m, hm, hmem⟩ := (h.links.holds_iff _ _ _).1 hold
  have hpartition : r.arguments.any (·.partition = a.partition) = true :=
    List.any_eq_true.2 ⟨a, ha, by simp⟩
  rw [isLinked, hm, Option.any_some]
  refine List.any_eq_true.2 ⟨⟨verb, a.partition⟩, hmem, ?_⟩
  rcases hverb with rfl | ⟨rfl, hname⟩
  · simp [hpartition]
  · simp [hpartition, isVerb, hname]

/-- The verb holds all machines beside the token, which is found again by its name. -/
theorem lastCheck_of_act (hfiled : l.Filed) (hnodup : seq.Nodup)
    (hlive : ∀ id ∈ seq, l.graph.contains id = true) (hact : r.act seq l = .ok (some new) l')
    (hleft : ∃ id ∈ seq, some id ≠ seq.find? (r.isVerb l.graph)) {later : Lexicon}
    (hlater : Lexicon.Evolves l later) (h : Stands l'.graph later.graph new seq) :
    r.lastCheck later.graph seq = false := by
  rcases act_cases hact with ⟨hnone, -⟩ | ⟨token, args, verb, slots, hsplit, hverb, hassign, hlink⟩
  · cases hnone
  obtain rfl : new = [verb] := Option.some.inj (linkAll_cases hlink).1
  have hlinked := holds_of_linkAll hassign hlink
  obtain ⟨htoken, rfl, -⟩ := split_ok hsplit
  rw [← htoken] at hleft
  have hholds : ∀ id ∈ seq, some id ≠ token → ∃ a ∈ r.arguments, later.graph.Holds verb a.partition id := by
    intro id hid hne
    obtain ⟨a, ha, hold⟩ := hlinked id ((mem_others hnodup).2 ⟨hid, htoken ▸ hne⟩)
    exact ⟨a, ha, h verb List.mem_cons_self id hid _ hold⟩
  have hverblive : later.graph.contains verb = true := by
    obtain ⟨id, hid, hne⟩ := hleft
    obtain ⟨a, -, hold⟩ := hholds id hid hne
    exact hold.contains
  have hseqlive : ∀ id ∈ seq, later.graph.contains id = true := by
    intro id hid
    by_cases hne : some id = token
    · rw [← hne] at hverb
      cases hverb
      exact hverblive
    · obtain ⟨a, -, hold⟩ := hholds id hid hne
      exact hlater.sound.graph.contains_child hold
  -- names never change, so the token is the one it was
  have hsame : seq.find? (r.isVerb later.graph) = token := by
    rw [htoken]
    refine List.find?_congr ?_
    intro id hid
    rw [isVerb, isVerb, hlater.name?_eq (hlive id hid) (hseqlive id hid)]
  have hverbname : token = some verb ∨ token = none ∧ later.graph.name? verb = some r.verb := by
    cases token with
    | some token => exact .inl hverb
    | none =>
      refine .inr ⟨rfl, ?_⟩
      exact hlater.name?_of_filed hfiled (List.mem_of_head? hverb) hverblive
  rw [lastCheck_eq_false_iff, hsame]
  refine ⟨hleft, ?_⟩
  intro id hid hne
  obtain ⟨a, ha, hold⟩ := hholds id hid hne
  exact isLinked_of_holds hlater.sound.graph ha hold hverbname

theorem act_lone {lone : MachineId} (h : l.graph.name? lone = some r.verb) :
    r.lastCheck l.graph [lone] = true ∧
      ∃ l', r.act [lone] l = .ok (some [lone]) l' ∧ l'.graph.name? lone = some r.verb := by
  have hisVerb : r.isVerb l.graph lone = true := by
    rw [isVerb, h]
    exact beq_self_eq_true _
  have hlast : r.lastCheck l.graph [lone] = true := by
    simp [lastCheck, hisVerb]
  obtain ⟨m, hm, hname⟩ := Option.map_eq_some_iff.1 h
  have hsplit : r.split l.graph [lone] = .ok (some lone, []) := by
    rw [split, Graph.name_of_find? hm]
    exact if_pos hname
  obtain ⟨g, hset, hkept⟩ : ∃ g, changeGraph (·.setControl lone (l.graph.control? lone)) l =
      .ok () { l with graph := g } ∧ g.name? lone = some r.verb := by
    refine ⟨l.graph.update lone fun m => { m with control := l.graph.control? lone }, ?_, ?_⟩
    · rw [changeGraph, Graph.setControl, Graph.get_of_find? hm]
      rfl
    · refine (Graph.name?_update ?_ ..).trans h
      exact fun _ => rfl
  refine ⟨hlast, { l with graph := g }, ?_, hkept⟩
  rw [act_eq, get_bind, if_pos hlast, Lexicon.ask_bind hsplit]
  exact Outcome.bind_eq_of_ok hset

end VerbRule

/-! ## Trigger rules -/

namespace TriggerRule

variable {r : TriggerRule} {plugin : MachineId}

theorem hold_ok {ids : List MachineId} {u : Unit} (h : hold plugin ids l = .ok u l') :
    Extends l.graph l'.graph ∧ ∀ id ∈ ids, l'.graph.Holds plugin 0 id := by
  induction ids generalizing l with
  | nil =>
    cases h
    exact ⟨.refl _, fun _ hid => (List.not_mem_nil hid).elim⟩
  | cons id ids ih =>
    obtain ⟨_, l₁, happend, hrest⟩ := steps_of_ok h
    obtain ⟨g₁, happ, rfl⟩ := changeGraph_ok happend
    obtain ⟨hextends, hholds⟩ := ih hrest
    refine ⟨(extends_append happ).trans hextends, ?_⟩
    intro x hx
    rcases List.mem_cons.1 hx with rfl | hx
    · exact hextends.holds _ _ _ ((Graph.holds_append happ).2 (.inr ⟨rfl, rfl, rfl⟩))
    · exact hholds x hx

theorem isOwned_of_holds (h : g.Sound) (hold : g.Holds plugin 0 id) (hown : r.isOwn g plugin = true) :
    r.isOwned g id = true := by
  obtain ⟨m, hm, hmem⟩ := (h.links.holds_iff _ _ _).1 hold
  rw [isOwned, hm, Option.any_some, Bool.or_eq_true]
  exact .inr (List.any_eq_true.2 ⟨_, hmem, hown⟩)

theorem isOwn_of_act (hl : l.Sound) (hact : r.act seq l = .ok (some new) l') :
    ∀ p ∈ new, r.isOwn l'.graph p = true := by
  rcases act_cases hact with ⟨hnone, -⟩ | ⟨plugin, l₁, l₂, hnew, hcreate, hhold, hactive⟩
  · cases hnone
  obtain rfl : new = [plugin] := Option.some.inj hnew
  have hcontrol : l'.graph.control? plugin = some (.plugin r.call) := by
    rw [Lexicon.graph_addActive hactive, (hold_ok hhold).1.control, Graph.control?,
      Lexicon.find?_of_create hl.graph.slots hcreate]
    rfl
  rintro p hp
  obtain rfl := List.mem_singleton.1 hp
  rw [isOwn, hcontrol]
  exact beq_self_eq_true _

/-- The plugin machine holds the machines, and still calls the endpoint. -/
theorem lastCheck_of_act (hact : r.act seq l = .ok (some new) l') (hg : g.Sound)
    (h : Stands l'.graph g new seq) (hown : ∀ p ∈ new, r.isOwn g p = true) : r.lastCheck g seq = false := by
  rcases act_cases hact with ⟨hnone, -⟩ | ⟨plugin, l₁, l₂, hnew, hcreate, hhold, hactive⟩
  · cases hnone
  obtain rfl : new = [plugin] := Option.some.inj hnew
  have hown := hown plugin List.mem_cons_self
  cases seq with
  | nil => rfl
  | cons id ids =>
    have hold : g.Holds plugin 0 id := by
      refine h plugin List.mem_cons_self id List.mem_cons_self 0 ?_
      rw [Lexicon.graph_addActive hactive]
      exact (hold_ok hhold).2 id List.mem_cons_self
    simp [lastCheck, isOwned_of_holds hg hold hown]

end TriggerRule

end MeaningGraph
