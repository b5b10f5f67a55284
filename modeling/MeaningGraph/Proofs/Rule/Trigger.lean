/-
# Trigger words are used once

A trigger rule makes a plugin machine of machines whose names are its words.  No two plugin machines of one endpoint
are to use the same word, and what was used is recorded nowhere but in the graph:

    owned     the machine calls the endpoint, or a machine that does holds it

    act       no machine of the sequence is owned     a new machine with the rule's name and call, which holds the
                                                      sequence in partition 0, each machine once, and is active;
                                                      the machines of the sequence get a back-link to it
              otherwise, or without machines          nothing

So a machine that was made holds what no machine of its endpoint held before, and what it holds is owned from then on.
Over any number of calls this is one statement about the machines made since the first of them (`Exclusive`), which
each call keeps, whichever rule of the endpoint it is made on.

The check reads names, and no more: the automaton of the rule is a chain with one edge for each word.
-/
import MeaningGraph.Proofs.Rule.Linked
import MeaningGraph.Proofs.Activation.Trace
import MeaningGraph.Proofs.Acceptor.History

namespace MeaningGraph

open Outcome (steps_of_ok)
open Relation (ReflTransGen)

/-! ## Ownership -/

namespace Graph

def Calls (g : Graph) (endpoint : String) (id : MachineId) : Prop :=
  ∃ call, g.control? id = some (.plugin call) ∧ call.endpoint = endpoint

/-- The machine calls the endpoint, or a machine that does holds it. -/
def Owned (g : Graph) (endpoint : String) (id : MachineId) : Prop :=
  g.Calls endpoint id ∨ ∃ p i, g.Holds p i id ∧ g.Calls endpoint p

/-- Of the machines that are live now and were not before, each calls the endpoint; what it holds does not, and no
other machine that calls the endpoint holds it. -/
def Exclusive (endpoint : String) (before now : Graph) : Prop :=
  ∀ p, now.contains p = true → before.contains p = false → now.Calls endpoint p ∧
    ∀ i c, now.Holds p i c → ¬ now.Calls endpoint c ∧ ∀ q j, now.Holds q j c → now.Calls endpoint q → q = p

end Graph

namespace TriggerRule

variable {r : TriggerRule} {g g₀ : Graph} {l l' l₁ l₂ : Lexicon} {p q c id : MachineId} {i j : Nat}
  {ids seq held : List MachineId} {endpoint : String}

theorem isOwn_iff : r.isOwn g id = true ↔ g.Calls r.call.endpoint id := by
  unfold isOwn Graph.Calls
  split
  · rename_i call hcontrol
    simp [hcontrol]
  · rename_i hnone
    refine ⟨fun h => (Bool.false_ne_true h).elim, ?_⟩
    rintro ⟨call, hcontrol, -⟩
    exact absurd hcontrol (hnone call)

/-- The back-links tell who holds a machine. -/
theorem isOwned_iff (hg : g.Sound) (hid : g.contains id = true) :
    r.isOwned g id = true ↔ g.Owned r.call.endpoint id := by
  obtain ⟨m, hm⟩ := Graph.contains_iff.1 hid
  rw [isOwned, hm, Option.any_some, Bool.or_eq_true, isOwn_iff, List.any_eq_true]
  refine or_congr_right ⟨?_, ?_⟩
  · rintro ⟨link, hlink, hown⟩
    exact ⟨link.parent, link.partition, (hg.links.holds_iff _ _ _).2 ⟨m, hm, hlink⟩, isOwn_iff.1 hown⟩
  · rintro ⟨p, i, hold, hcalls⟩
    obtain ⟨m', hm', hlink⟩ := (hg.links.holds_iff _ _ _).1 hold
    obtain rfl : m = m' := Option.some.inj (hm.symm.trans hm')
    exact ⟨⟨p, i⟩, hlink, isOwn_iff.2 hcalls⟩

theorem lastCheck_iff (hg : g.Sound) (hlive : ∀ id ∈ seq, g.contains id = true) :
    r.lastCheck g seq = true ↔ seq ≠ [] ∧ ∀ id ∈ seq, ¬ g.Owned r.call.endpoint id := by
  have hempty : (!seq.isEmpty) = true ↔ seq ≠ [] := by
    rw [Bool.not_eq_true', List.isEmpty_eq_false_iff]
  have hnone : (!seq.any (r.isOwned g)) = true ↔ ∀ id ∈ seq, ¬ g.Owned r.call.endpoint id := by
    rw [Bool.not_eq_true', List.any_eq_false]
    exact forall₂_congr fun id hid => not_congr (isOwned_iff hg (hlive id hid))
  rw [lastCheck, Bool.and_eq_true, hempty, hnone]

/-! ## The machine that is made -/

theorem find?_link_of_part {m : Machine} {x : MachineId} (hp : g.find? p = some { m with parts := [held] })
    (hpx : p ≠ x) (id : MachineId) :
    (g.link p x 0).find? id =
      if id = x then (g.find? x).map (·.addParent ⟨p, 0⟩)
      else if id = p then some { m with parts := [held ++ [x]] } else g.find? id := by
  rw [Graph.link, Graph.find?_update, Graph.find?_update, Graph.find?_update, if_neg (Ne.symm hpx), hp]
  rfl

/-- The induction is on the machines that are still to be held; those that are held already are passed over. -/
theorem exists_hold {m : Machine} (hp : l.graph.find? p = some { m with parts := [held] })
    (hlive : ∀ id ∈ ids, l.graph.contains id = true) (hne : p ∉ ids) :
    ∃ g, hold p ids l = .ok () { l with graph := g } ∧
      g.find? p = some { m with parts := [held ++ (ids.filter (· ∉ held)).eraseDups] } ∧
      ∀ id, id ≠ p → g.find? id =
        (l.graph.find? id).map fun m => if id ∈ ids ∧ id ∉ held then m.addParent ⟨p, 0⟩ else m := by
  induction ids generalizing l held with
  | nil => exact ⟨l.graph, rfl, by simpa using hp, fun id _ => by simp⟩
  | cons x ids ih =>
    obtain ⟨hx, hlive⟩ := List.forall_mem_cons.1 hlive
    obtain ⟨hpx, hne⟩ := List.ne_and_not_mem_of_not_mem_cons hne
    have happend : l.graph.append p x 0 = .ok (if x ∈ held then l.graph else l.graph.link p x 0) :=
      Graph.append_eq hp hx
    by_cases hmem : x ∈ held
    · rw [if_pos hmem] at happend
      obtain ⟨g, hhold, hmade, hkept⟩ := ih (l := l) hp hlive hne
      refine ⟨g, ?_, ?_, fun id hid => ?_⟩
      · rw [hold, Outcome.bind_eq_of_ok (Lexicon.changeGraph_of_ok happend)]
        exact hhold
      · rw [hmade, Search.append_unseen_cons, if_pos hmem]
      · have hsame : (id ∈ x :: ids ∧ id ∉ held) ↔ (id ∈ ids ∧ id ∉ held) := by
          rw [List.mem_cons]
          refine and_congr_left fun hid => or_iff_right ?_
          rintro rfl
          exact hid hmem
        simp only [hkept id hid, hsame]
    · rw [if_neg hmem] at happend
      have hfind := find?_link_of_part hp hpx
      have hlinked : ∀ id, l.graph.contains id = true → (l.graph.link p x 0).contains id = true := fun id hid =>
        (Graph.contains_append happend).trans hid
      have hmore : (l.graph.link p x 0).find? p = some { m with parts := [held ++ [x]] } := by
        rw [hfind, if_neg hpx, if_pos rfl]
      obtain ⟨g, hhold, hmade, hkept⟩ := ih (l := { l with graph := l.graph.link p x 0 }) hmore
        (fun id hid => hlinked id (hlive id hid)) hne
      refine ⟨g, ?_, ?_, fun id hid => ?_⟩
      · rw [hold, Outcome.bind_eq_of_ok (Lexicon.changeGraph_of_ok happend)]
        exact hhold
      · rw [hmade, Search.append_unseen_cons, if_neg hmem]
      · rw [hkept id hid, hfind]
        by_cases hidx : id = x
        · subst hidx
          cases l.graph.find? id <;> simp [hmem]
        · simp [hidx, hid]

/-- `l'` is `l` with a plugin machine `p` made of the sequence. -/
structure Triggered (r : TriggerRule) (seq : List MachineId) (p : MachineId) (l l' : Lexicon) : Prop where
  /-- The handle was never given out before. -/
  fresh : ¬ l.graph.Known p
  made : l'.graph.find? p =
    some { name := r.name, control := some (.plugin r.call), parts := [seq.eraseDups], parents := [] }
  /-- The machines of the sequence get a back-link, and nothing else changes in the graph. -/
  kept : ∀ id, id ≠ p → l'.graph.find? id =
    (l.graph.find? id).map fun m => if id ∈ seq then m.addParent ⟨p, 0⟩ else m
  statics : l'.statics = l.statics
  order : l'.order = l.order ++ [p]
  entries : ∀ name, l'.entries name = l.entries name ++ if name = r.name then [⟨p, false⟩] else []

/-- A sequence of live machines that passes the last check makes a machine. -/
theorem exists_triggered (hl : l.Sound) (hfiled : l.Filed) (hlive : ∀ id ∈ seq, l.graph.contains id = true)
    (hlast : r.lastCheck l.graph seq = true) :
    ∃ p l', r.act seq l = .ok (some [p]) l' ∧ Triggered r seq p l l' := by
  obtain ⟨p, g₁, hcreated, hfresh, hfind⟩ := Lexicon.exists_create hl.graph.slots r.name (some (.plugin r.call))
  have hne : p ∉ seq := fun hmem => hfresh (.of_contains (hlive p hmem))
  have hlive₁ : ∀ id ∈ seq, g₁.contains id = true := by
    intro id hid
    have hidp : id ≠ p := fun heq => hne (heq ▸ hid)
    rw [Graph.contains, hfind, if_neg hidp]
    exact hlive id hid
  have hbare : g₁.find? p = some { Graph.bare r.name (some (.plugin r.call)) with parts := [[]] } :=
    (hfind p).trans (if_pos rfl)
  obtain ⟨g₂, hhold, hmade, hkept⟩ := exists_hold (l := { l with graph := g₁ }) hbare hlive₁ hne
  have hmade' : g₂.find? p =
      some { name := r.name, control := some (.plugin r.call), parts := [seq.eraseDups], parents := [] } := by
    rw [hmade]
    simp [Graph.bare]
  have habsent : p ∉ l.instances r.name := fun hmem => hfresh (hfiled r.name p hmem).1
  have hregister := Lexicon.register_of_not_mem (l := { l with graph := g₂ }) habsent
  refine ⟨p, Lexicon.register r.name p { l with graph := g₂ }, ?_, hfresh, ?_, fun id hid => ?_, ?_, ?_, ?_⟩
  · rw [act_eq, Lexicon.get_bind, if_pos hlast, make, Outcome.bind_eq_of_ok hcreated, Outcome.bind_eq_of_ok hhold,
      Outcome.bind_eq_of_ok (Lexicon.addActive_one (Graph.name?_of_find? hmade'))]
    rfl
  · rw [Lexicon.graph_register]
    exact hmade'
  · rw [Lexicon.graph_register]
    refine (hkept id hid).trans ?_
    simp [hfind, hid]
  · rw [Lexicon.statics_register]
  · rw [hregister]
  · intro name
    rw [hregister, Lexicon.entries_insert]
    split
    · rename_i heq
      rw [heq]
      rfl
    · exact (List.append_nil _).symm

namespace Triggered

theorem ne_of_contains (h : Triggered r seq p l l') (hid : l.graph.contains id = true) : id ≠ p :=
  fun heq => h.fresh (.of_contains (heq ▸ hid))

theorem find?_eq_none (h : Triggered r seq p l l') : l.graph.find? p = none :=
  Option.not_isSome_iff_eq_none.1 fun hlive => h.ne_of_contains hlive rfl

theorem contains_iff (h : Triggered r seq p l l') :
    l'.graph.contains id = true ↔ id = p ∨ l.graph.contains id = true := by
  by_cases hid : id = p
  · subst hid
    simp [Graph.contains, h.made]
  · simp [Graph.contains, h.kept id hid, hid]

theorem holds_iff (h : Triggered r seq p l l') :
    l'.graph.Holds q i c ↔ l.graph.Holds q i c ∨ q = p ∧ i = 0 ∧ c ∈ seq := by
  by_cases hq : q = p
  · subst hq
    simp only [Graph.Holds, h.made, h.find?_eq_none, Option.some.injEq, exists_eq_left', reduceCtorEq, false_and,
      exists_false, false_or, true_and]
    cases i with
    | zero => simp [Machine.part]
    | succ i => simp [Machine.part]
  · have hpart : ∀ m : Machine, (if q ∈ seq then m.addParent ⟨p, 0⟩ else m).part i = m.part i := by
      intro m
      split <;> rfl
    simp [Graph.Holds, h.kept q hq, hq, hpart]

theorem calls_iff (h : Triggered r seq p l l') :
    l'.graph.Calls r.call.endpoint id ↔ id = p ∨ l.graph.Calls r.call.endpoint id := by
  by_cases hid : id = p
  · subst hid
    simp [Graph.Calls, Graph.control?, h.made]
  · have hcontrol : l'.graph.control? id = l.graph.control? id := by
      rw [Graph.control?, Graph.control?, h.kept id hid]
      cases l.graph.find? id with
      | none => rfl
      | some m =>
        change (if id ∈ seq then m.addParent ⟨p, 0⟩ else m).control = m.control
        split <;> rfl
    simp [Graph.Calls, hcontrol, hid]

theorem entry? (h : Triggered r seq p l l') (hfiled : l.Filed) : l'.entry? p = some ⟨p, false⟩ := by
  have hold : (l.entries r.name).find? (·.machine = p) = none := by
    refine List.find?_eq_none.2 fun e he heq => h.fresh ?_
    exact (hfiled r.name p (Lexicon.mem_instances.2 ⟨e, he, of_decide_eq_true heq⟩)).1
  rw [Lexicon.entry?, Graph.name?_of_find? h.made, Option.bind_some, h.entries, List.find?_append, hold, if_pos rfl]
  simp

/-- What was held alone stays so, and what is made holds alone what nobody owned. -/
theorem exclusive (h : Triggered r seq p l l') (hl : l.Sound)
    (hlive : ∀ id ∈ seq, l.graph.contains id = true) (hfree : ∀ id ∈ seq, ¬ l.graph.Owned r.call.endpoint id)
    (hexclusive : Graph.Exclusive r.call.endpoint g₀ l.graph) :
    Graph.Exclusive r.call.endpoint g₀ l'.graph := by
  intro q hq hnew
  by_cases hqp : q = p
  · subst hqp
    refine ⟨h.calls_iff.2 (.inl rfl), fun i c hold => ?_⟩
    rcases h.holds_iff.1 hold with ⟨m, hm, -⟩ | ⟨-, -, hc⟩
    · rw [h.find?_eq_none] at hm
      cases hm
    · have hnot : ¬ l.graph.Calls r.call.endpoint c := fun hcalls => hfree c hc (.inl hcalls)
      refine ⟨fun hcalls => ?_, fun q' j hold' hcalls' => ?_⟩
      · exact (h.calls_iff.1 hcalls).elim (h.ne_of_contains (hlive c hc)) hnot
      · rcases h.calls_iff.1 hcalls' with heq | hcalls'
        · exact heq
        · rcases h.holds_iff.1 hold' with hold' | ⟨heq, -, -⟩
          · exact absurd (.inr ⟨q', j, hold', hcalls'⟩) (hfree c hc)
          · exact heq
  · have hq := (h.contains_iff.1 hq).resolve_left hqp
    obtain ⟨hcalls, hholds⟩ := hexclusive q hq hnew
    refine ⟨h.calls_iff.2 (.inr hcalls), fun i c hold => ?_⟩
    have hold := (h.holds_iff.1 hold).resolve_right fun hnow => hqp hnow.1
    obtain ⟨hnot, halone⟩ := hholds i c hold
    refine ⟨fun hc => ?_, fun q' j hold' hcalls' => ?_⟩
    · exact (h.calls_iff.1 hc).elim (h.ne_of_contains (hl.graph.contains_child hold)) hnot
    · rcases h.holds_iff.1 hold' with hold' | ⟨-, -, hc⟩
      · refine halone q' j hold' ((h.calls_iff.1 hcalls').resolve_left ?_)
        exact h.ne_of_contains hold'.contains
      · exact absurd (.inr ⟨q, i, hold, hcalls⟩) (hfree c hc)

end Triggered

/-! ## Any number of calls -/

/-- A check or an act of some rule of the endpoint, the act on live machines. -/
inductive Attempt (endpoint : String) (l : Lexicon) : Lexicon → Prop
  | check {r r' : TriggerRule} {seq : List MachineId} {answer : Bool} {l' : Lexicon}
      (hr : r.call.endpoint = endpoint) (hcheck : Rule.checkNow seq (r, l) = .ok answer (r', l')) :
      Attempt endpoint l l'
  | act {r r' : TriggerRule} {seq : List MachineId} {answer : Option (List MachineId)} {l' : Lexicon}
      (hr : r.call.endpoint = endpoint) (hlive : ∀ id ∈ seq, l.graph.contains id = true)
      (hact : Rule.act seq (r, l) = .ok answer (r', l')) : Attempt endpoint l l'

theorem eq_of_checkNow {r' : TriggerRule} {answer : Bool}
    (h : Rule.checkNow seq (r, l) = .ok answer (r', l')) : l' = l := by
  cases h
  rfl

/-- A call leaves the lexicon alone, or makes a machine of machines that nobody owns. -/
theorem Attempt.cases (h : Attempt endpoint l l') (hl : l.Sound) (hfiled : l.Filed) :
    l' = l ∨ ∃ (r : TriggerRule) (seq : List MachineId) (p : MachineId), r.call.endpoint = endpoint ∧
      (∀ id ∈ seq, l.graph.contains id = true) ∧ (∀ id ∈ seq, ¬ l.graph.Owned endpoint id) ∧
      Triggered r seq p l l' := by
  cases h with
  | check hr hcheck => exact .inl (eq_of_checkNow hcheck)
  | @act r _ seq _ _ hr hlive hact =>
    obtain ⟨l₁, hact, heq⟩ := Rule.onPart_ok hact
    cases heq
    by_cases hlast : r.lastCheck l.graph seq = true
    · obtain ⟨p, l₂, hmake, htriggered⟩ := exists_triggered hl hfiled hlive hlast
      cases hmake.symm.trans hact
      exact .inr ⟨r, seq, p, hr, hlive, hr ▸ ((lastCheck_iff hl.graph hlive).1 hlast).2, htriggered⟩
    · rw [act_of_not_lastCheck (Bool.eq_false_iff.2 hlast)] at hact
      cases hact
      exact .inl rfl

theorem Attempt.gains (h : Attempt endpoint l l') : Lexicon.Gains l l' := by
  cases h with
  | check hr hcheck =>
    obtain rfl := eq_of_checkNow hcheck
    exact .refl
  | @act r _ seq _ _ hr hlive hact =>
    obtain ⟨l₁, hact, heq⟩ := Rule.onPart_ok hact
    cases heq
    exact (r.within_act Lexicon.admits_gains seq).of_ok hact

/-- The induction is on the calls. -/
theorem exclusive_of_attempts (hl : l.Sound) (hfiled : l.Filed) (h : ReflTransGen (Attempt endpoint) l l') :
    l'.Sound ∧ l'.Filed ∧ Graph.Exclusive endpoint l.graph l'.graph := by
  induction h with
  | refl =>
    refine ⟨hl, hfiled, fun p hp hnew => ?_⟩
    rw [hp] at hnew
    cases hnew
  | tail _ hcall ih =>
    obtain ⟨hl₁, hfiled₁, hexclusive⟩ := ih
    have hevolves := hcall.gains.changes.evolves hl₁
    refine ⟨hevolves.sound, hevolves.filed hfiled₁, ?_⟩
    rcases hcall.cases hl₁ hfiled₁ with rfl | ⟨r, seq, p, rfl, hlive, hfree, htriggered⟩
    · exact hexclusive
    · exact htriggered.exclusive hl₁ hlive hfree hexclusive

/-! ## The check -/

theorem mem_chain_iff {words : List String} {s : Nat} {e : Edge} :
    e ∈ chain words s ↔ ∃ k word, words[k]? = some word ∧ e = ⟨s + k, .exact word, s + k + 1⟩ := by
  induction words generalizing s with
  | nil => simp [chain]
  | cons word words ih =>
    rw [chain, List.mem_cons, ih]
    constructor
    · rintro (rfl | ⟨k, later, hword, rfl⟩)
      · exact ⟨0, word, rfl, rfl⟩
      · exact ⟨k + 1, later, hword, by simp only [Edge.mk.injEq, true_and]; omega⟩
    · rintro ⟨k, later, hword, rfl⟩
      cases k with
      | zero => exact .inl (by cases hword; rfl)
      | succ k => exact .inr ⟨k, later, hword, by simp only [Edge.mk.injEq, true_and]; omega⟩

/-- From a state the rest of the words leads to the end of the chain. -/
theorem leads_chain_iff {words : List String} {s : Nat} (hs : s ≤ words.length) :
    Acceptor.Leads (chain words 0) g seq s words.length ↔
      seq.map g.name? = (words.drop s).map some ∧ ∀ word ∈ words.drop s, Pattern.Fits word := by
  induction seq generalizing s with
  | nil =>
    rw [List.map_nil, eq_comm (a := []), List.map_eq_nil_iff]
    constructor
    · intro h
      have hnone : words.drop s = [] := List.drop_eq_nil_of_le (ge_of_eq h)
      exact ⟨hnone, hnone ▸ List.forall_mem_nil _⟩
    · rintro ⟨hnone, -⟩
      exact Nat.le_antisymm hs (List.drop_eq_nil_iff.1 hnone)
  | cons id ids ih =>
    constructor
    · rintro ⟨e, he, hsource, hid, hrest⟩
      obtain ⟨k, word, hword, rfl⟩ := mem_chain_iff.1 he
      obtain rfl : k = s := by simpa using hsource
      obtain ⟨hk, rfl⟩ := List.getElem?_eq_some_iff.1 hword
      rw [show 0 + k + 1 = k + 1 by omega, ih hk] at hrest
      obtain ⟨hname, hfits⟩ := Matcher.accepts_exact.1 hid
      rw [List.drop_eq_getElem_cons hk, List.map_cons, List.map_cons, hname, hrest.1]
      exact ⟨rfl, List.forall_mem_cons.2 ⟨hfits, hrest.2⟩⟩
    · rintro ⟨h, hfits⟩
      have hk : s < words.length := by
        by_contra hlast
        rw [List.drop_eq_nil_of_le (Nat.le_of_not_lt hlast)] at h
        cases h
      rw [List.drop_eq_getElem_cons hk] at h hfits
      obtain ⟨hid, hrest⟩ := List.cons.inj h
      obtain ⟨hfit, hfits⟩ := List.forall_mem_cons.1 hfits
      refine ⟨_, mem_chain_iff.2 ⟨s, _, List.getElem?_eq_getElem hk, rfl⟩, Nat.zero_add s, ?_, ?_⟩
      · exact Matcher.accepts_exact.2 ⟨hid, hfit⟩
      · rw [show 0 + s + 1 = s + 1 by omega]
        exact (ih hk).2 ⟨hrest, hfits⟩

theorem check_iff :
    r.check g seq = true ↔ seq.map g.name? = r.trigger.map some ∧ ∀ word ∈ r.trigger, Pattern.Fits word := by
  rw [check, Acceptor.scan_iff]
  refine Iff.trans ?_ (leads_chain_iff (Nat.zero_le _))
  constructor
  · rintro ⟨s, hs, t, ht, hleads⟩
    obtain rfl := List.mem_singleton.1 hs
    obtain rfl := List.mem_singleton.1 ht
    exact hleads
  · exact fun hleads => ⟨0, List.mem_singleton_self 0, _, List.mem_singleton_self _, hleads⟩

theorem accepts_moveTo (r : TriggerRule) (states : List Nat) (g : Graph) (seq : List MachineId) :
    ∃ a, Acceptor.accepts g seq (r.automaton.moveTo states) = .ok (r.check g seq) a ∧
      a.moveTo [] = r.automaton.moveTo [] :=
  ⟨_, rfl, Acceptor.moveTo_scan [] g seq r.automaton.reset⟩

/-! ## What a trigger rule does -/

/-- In every lexicon that can be reached, a rule makes a machine of a sequence of live machines when there are some and
none of them calls its endpoint or is held by a machine that does, and otherwise it changes nothing; over any number of
checks and acts of rules of its endpoint, no machine that was made holds one that calls the endpoint, and no two hold the
same; and its check takes the sequences named by the words of the trigger, wherever its automaton stands. -/
theorem triggers_once (h : l.Reachable) (r : TriggerRule) :
    (∀ seq, (∀ id ∈ seq, l.graph.contains id = true) → seq ≠ [] →
      (∀ id ∈ seq, ¬ l.graph.Owned r.call.endpoint id) →
      ∃ p l', r.act seq l = .ok (some [p]) l' ∧ Triggered r seq p l l' ∧
        l'.isActive p = true ∧ l'.isExpanded p = .ok false) ∧
    (∀ seq, (∀ id ∈ seq, l.graph.contains id = true) →
      ¬ (seq ≠ [] ∧ ∀ id ∈ seq, ¬ l.graph.Owned r.call.endpoint id) → r.act seq l = .ok none l) ∧
    (∀ l', ReflTransGen (Attempt r.call.endpoint) l l' → Graph.Exclusive r.call.endpoint l.graph l'.graph) ∧
    (∀ g seq, r.check g seq = true ↔
      seq.map g.name? = r.trigger.map some ∧ ∀ word ∈ r.trigger, Pattern.Fits word) ∧
    ∀ states g seq, ∃ a, Acceptor.accepts g seq (r.automaton.moveTo states) = .ok (r.check g seq) a ∧
      a.moveTo [] = r.automaton.moveTo [] := by
  have hl := h.sound
  refine ⟨fun seq hlive hne hfree => ?_, fun seq hlive hnot => ?_, fun l' hrun => ?_, fun _ _ => check_iff,
    r.accepts_moveTo⟩
  · obtain ⟨p, l', hact, htriggered⟩ := exists_triggered hl h.filed hlive ((lastCheck_iff hl.graph hlive).2 ⟨hne, hfree⟩)
    have hentry := htriggered.entry? h.filed
    refine ⟨p, l', hact, htriggered, ?_, ?_⟩
    · rw [Lexicon.isActive, hentry]
      rfl
    · rw [Lexicon.isExpanded, hentry]
  · exact act_of_not_lastCheck (Bool.eq_false_iff.2 fun hlast => hnot ((lastCheck_iff hl.graph hlive).1 hlast))
  · exact (exclusive_of_attempts hl h.filed hrun).2.2

/-- A ticket is for a train. -/
def ticket : TriggerRule :=
  { name := "ticket", trigger := ["train", "ticket"], call := { endpoint := "elvira" } }

/-- A train and two tickets, the second of which a machine that calls the endpoint of `ticket` holds. -/
def counter : Lexicon :=
  Lexicon.empty.replay [.create "train" none, .create "ticket" none, .create "ticket" none,
    .create "ticket" (some (.plugin { endpoint := "elvira" })), .append ⟨3, 1⟩ ⟨2, 1⟩ 0]

theorem triggers_once_counter :
    counter.Reachable ∧ (∀ id ∈ [(⟨0, 1⟩ : MachineId), ⟨1, 1⟩, ⟨2, 1⟩], counter.graph.contains id = true) ∧
    ticket.check counter.graph [⟨0, 1⟩, ⟨1, 1⟩] = true ∧
    (∃ p l', ticket.act [⟨0, 1⟩, ⟨1, 1⟩, ⟨0, 1⟩] counter = .ok (some [p]) l' ∧
      l'.graph.Holds p 0 ⟨1, 1⟩ ∧ Graph.Exclusive "elvira" counter.graph l'.graph) ∧
    ticket.act [⟨0, 1⟩, ⟨2, 1⟩] counter = .ok none counter := by
  have hcounter : counter.Reachable := ⟨_, rfl⟩
  have hsound := hcounter.sound.graph
  have hlive : ∀ id ∈ [(⟨0, 1⟩ : MachineId), ⟨1, 1⟩, ⟨2, 1⟩], counter.graph.contains id = true := by decide +kernel
  have hfirst : ∀ id ∈ [(⟨0, 1⟩ : MachineId), ⟨1, 1⟩, ⟨0, 1⟩], counter.graph.contains id = true := by decide +kernel
  have hsecond : ∀ id ∈ [(⟨0, 1⟩ : MachineId), ⟨2, 1⟩], counter.graph.contains id = true := by decide +kernel
  have hfree : ∀ id ∈ [(⟨0, 1⟩ : MachineId), ⟨1, 1⟩, ⟨0, 1⟩], ¬ counter.graph.Owned "elvira" id :=
    ((lastCheck_iff (r := ticket) hsound hfirst).1 (by decide +kernel)).2
  have howned : counter.graph.Owned "elvira" ⟨2, 1⟩ :=
    (isOwned_iff (r := ticket) hsound (hlive _ (by decide))).1 (by decide +kernel)
  obtain ⟨hmake, hnone, hrun, hcheck, -⟩ := triggers_once hcounter ticket
  obtain ⟨p, l', hact, htriggered, -⟩ := hmake _ hfirst (by decide) hfree
  refine ⟨hcounter, hlive, (hcheck _ _).2 (by decide +kernel), ⟨p, l', hact, ?_, ?_⟩, hnone _ hsecond fun h => ?_⟩
  · exact htriggered.holds_iff.2 (.inr ⟨rfl, rfl, by decide⟩)
  · exact hrun l' (.single (.act rfl hfirst (Rule.onPart_of_ok hact)))
  · exact h.2 ⟨2, 1⟩ (by decide) howned

/-- A machine has the name of the only word, and is not accepted. -/
theorem check_longTrigger :
    let r : TriggerRule := { name := "booking", trigger := [Pattern.longName], call := { endpoint := "book" } }
    let g := (Graph.empty.create Pattern.longName none).2
    [(⟨0, 1⟩ : MachineId)].map g.name? = r.trigger.map some ∧ r.check g [⟨0, 1⟩] = false := by
  refine ⟨rfl, Bool.eq_false_iff.2 fun hyes => ?_⟩
  exact Pattern.not_fits_longName ((check_iff.1 hyes).2 _ List.mem_cons_self)

end TriggerRule

end MeaningGraph
