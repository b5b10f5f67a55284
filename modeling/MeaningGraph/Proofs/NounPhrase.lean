/-
# Noun phrases are bracketed

    [the, old, train, leaves, two, trains]      ─▶      [train, leaves, trains]
                                                          train[0: old, the]   trains[0: two]

A pair that one of the rules takes is a modifier and the noun behind it.  The modifier goes, and the noun has it last in
partition 0, so that of several modifiers the nearest comes first.  Which pair is reduced first depends on the order
of windows and rules; what is left does not, as each noun has a block of modifiers of its own.  So it is enough that a
pass reduces any pair at all (`Brackets.of_append`), and that one in which no rule fires has found no pair.
-/
import MeaningGraph.NounPhrase
import MeaningGraph.Proofs.Chunk
import MeaningGraph.Proofs.Pattern
import MeaningGraph.Proofs.Rule.Linking

namespace MeaningGraph.NounPhrase

open Outcome (bind_eq_of_ok)

variable {g g' g'' : Graph} {l : Lexicon} {a b id : MachineId} {before after mid chunk rest : List MachineId}
  {p : Pattern} {tags : List String} {text : String}

/-! ## Tags -/

/-- The text is one of the tags, or goes on with a feature after one. -/
def hasTag (tags : List String) (text : String) : Bool :=
  tags.any fun tag =>
    tag.toList.isPrefixOf text.toList && (text.toList.drop tag.toList.length).head?.all (· == '<')

/-- The part of speech is one of the tags, with or without features. -/
def isTagged (tags : List String) (g : Graph) (id : MachineId) : Bool :=
  ((g.control? id).bind Control.posText?).any (hasTag tags)

/-- An article, a determiner, an adjective or a numeral. -/
def isModifier : Graph → MachineId → Bool :=
  isTagged ["ART", "DET", "ADJ", "NUM"]

def isNoun : Graph → MachineId → Bool :=
  isTagged ["NOUN"]

theorem hasTag_iff : hasTag tags text = true ↔
    ∃ tag ∈ tags, ∃ post, text.toList = tag.toList ++ post ∧ (post = [] ∨ ∃ more, post = '<' :: more) := by
  simp only [hasTag, List.any_eq_true, Bool.and_eq_true, List.isPrefixOf_iff_prefix]
  refine exists_congr fun tag => and_congr_right fun _ => ?_
  constructor
  · rintro ⟨⟨post, hpost⟩, hhead⟩
    refine ⟨post, hpost.symm, ?_⟩
    rw [← hpost, List.drop_left] at hhead
    cases post with
    | nil => exact .inl rfl
    | cons c more =>
      obtain rfl : c = '<' := by simpa using hhead
      exact .inr ⟨more, rfl⟩
  · rintro ⟨post, hpost, hend⟩
    rw [hpost, List.drop_left]
    refine ⟨List.prefix_append .., ?_⟩
    rcases hend with rfl | ⟨more, rfl⟩
    · rfl
    · simp

/-- The pattern leads over one of the tags. -/
def LeadsOver (p : Pattern) (tags : List String) : Prop :=
  ∀ text : List Char, p.Reads text fun i j =>
    ∃ tag ∈ tags, ∃ pre post, text = pre ++ tag.toList ++ post ∧ i = pre.length ∧ j = i + tag.toList.length

theorem leadsOver_text (tag : String) : LeadsOver (.text tag) [tag] := by
  intro text
  refine (Pattern.reads_literal text tag.toList).imp fun i j => ?_
  simp

theorem leadsOver_alt (tag tag' : String) : LeadsOver (.alt [.text tag, .text tag']) [tag, tag'] := by
  intro text
  have hread := (Pattern.reads_literal text tag.toList).alt
    ((Pattern.reads_literal text tag'.toList).alt (Pattern.reads_alt_nil _))
  refine hread.imp fun i j => ?_
  simp

theorem occursIn_tagged (hp : LeadsOver p tags) (text : String) :
    (Pattern.seq [.look .textStart, p, .alt [.text "<", .look .textEnd]]).occursIn text = hasTag tags text := by
  have hend := (Pattern.reads_literal text.toList "<".toList).alt
    ((Pattern.reads_textEnd text.toList).alt (Pattern.reads_alt_nil _))
  have hread := (Pattern.reads_textStart text.toList).seq ((hp text.toList).seq (hend.seq (Pattern.reads_seq_nil _)))
  rw [Bool.eq_iff_iff, hasTag_iff]
  refine (Pattern.occursIn_iff hread).trans ?_
  constructor
  · rintro ⟨i, -, j, _, ⟨rfl, rfl⟩, k, ⟨tag, htag, pre, post, htext, hpre, rfl⟩, _, hfeature, rfl⟩
    obtain rfl := List.length_eq_zero_iff.1 hpre.symm
    refine ⟨tag, htag, post, htext, ?_⟩
    rw [Nat.zero_add] at hfeature
    rcases hfeature with ⟨pre', more, htext', hlength, -⟩ | ⟨hlength, -⟩ | hnone
    · rw [htext, List.nil_append, List.append_assoc] at htext'
      exact .inr ⟨more, (List.append_inj htext' hlength).2⟩
    · rw [htext, List.nil_append, List.length_append] at hlength
      exact .inl (List.length_eq_zero_iff.1 (by omega))
    · exact hnone.elim
  · rintro ⟨tag, htag, post, htext, hpost⟩
    have hover : ∃ tag' ∈ tags, ∃ pre post, text.toList = pre ++ tag'.toList ++ post ∧ 0 = pre.length ∧
        tag.toList.length = 0 + tag'.toList.length :=
      ⟨tag, htag, [], post, htext, rfl, (Nat.zero_add _).symm⟩
    rcases hpost with rfl | ⟨more, rfl⟩
    · have hlength : tag.toList.length = text.toList.length := by rw [htext, List.append_nil]
      exact ⟨0, Nat.zero_le _, _, 0, ⟨rfl, rfl⟩, _, hover, _, .inr (.inl ⟨hlength, rfl⟩), rfl⟩
    · have hsplit : text.toList = tag.toList ++ "<".toList ++ more := by
        rw [htext, List.append_assoc]
        rfl
      exact ⟨0, Nat.zero_le _, _, 0, ⟨rfl, rfl⟩, _, hover, _, .inl ⟨_, more, hsplit, rfl, rfl⟩, rfl⟩

theorem accepts_tagged (hp : LeadsOver p tags) (g : Graph) (id : MachineId) :
    (tagged p).accepts g id = isTagged tags g id := by
  rw [tagged, Matcher.accepts, isTagged]
  exact congrArg (Option.any · _) (funext fun text => occursIn_tagged hp text)

theorem not_isNoun_of_isModifier (h : isModifier g id = true) : isNoun g id = false := by
  refine Bool.eq_false_iff.2 fun hnoun => ?_
  obtain ⟨text, htext, hmodifier⟩ := (Option.any_eq_true _ _).1 h
  obtain ⟨text', htext', hnoun⟩ := (Option.any_eq_true _ _).1 hnoun
  obtain rfl : text' = text := Option.some.inj (htext'.symm.trans htext)
  obtain ⟨tag, htag, post, hsplit, -⟩ := hasTag_iff.1 hmodifier
  obtain ⟨tag', htag', post', hsplit', -⟩ := hasTag_iff.1 hnoun
  obtain rfl := List.mem_singleton.1 htag'
  rw [hsplit] at hsplit'
  -- the first two letters tell the tags apart
  simp only [List.mem_cons, List.not_mem_nil, or_false] at htag
  rcases htag with rfl | rfl | rfl | rfl <;> simp at hsplit'

theorem not_isModifier_of_isNoun (h : isNoun g id = true) : isModifier g id = false := by
  refine Bool.eq_false_iff.2 fun hmodifier => ?_
  rw [not_isNoun_of_isModifier hmodifier] at h
  cases h

/-! ## The rules -/

/-- Some rule takes a pair exactly when it is a modifier and a noun. -/
theorem exists_check_iff :
    (∃ r ∈ rules, r.check g [a, b] = true) ↔ isModifier g a = true ∧ isNoun g b = true := by
  have hnoun : noun.accepts g b = isNoun g b := accepts_tagged (leadsOver_text "NOUN") g b
  have hmodifier : isModifier g a = (isTagged ["ART", "DET"] g a || (isTagged ["ADJ"] g a || isTagged ["NUM"] g a)) := by
    unfold isModifier isTagged
    cases (g.control? a).bind Control.posText? with
    | none => rfl
    | some text => simp [hasTag, Bool.or_assoc]
  have hdet : detNoun.check g [a, b] = (isTagged ["ART", "DET"] g a && isNoun g b) := by
    rw [AppendRule.check_pair, ← hnoun, ← accepts_tagged (leadsOver_alt "ART" "DET")]
    rfl
  have hadj : adjNoun.check g [a, b] = (isTagged ["ADJ"] g a && isNoun g b) := by
    rw [AppendRule.check_pair, ← hnoun, ← accepts_tagged (leadsOver_text "ADJ")]
    rfl
  have hnum : numNoun.check g [a, b] = (isTagged ["NUM"] g a && isNoun g b) := by
    rw [AppendRule.check_pair, ← hnoun, ← accepts_tagged (leadsOver_text "NUM")]
    rfl
  simp only [rules, List.mem_cons, List.not_mem_nil, or_false, exists_eq_or_imp, exists_eq_left, hdet, hadj, hnum,
    Bool.and_eq_true]
  simp only [hmodifier, Bool.or_eq_true, or_and_right]

theorem roles_of_mem {r : AppendRule} (hr : r ∈ rules) : r.roles a b = (a, b) ∧ r.partition = 0 := by
  simp only [rules, List.mem_cons, List.not_mem_nil, or_false] at hr
  rcases hr with rfl | rfl | rfl <;> exact ⟨rfl, rfl⟩

/-! ## Brackets -/

/-- Modifiers or none, and then a noun. -/
def leadsToNoun (g : Graph) (rest : List MachineId) : Bool :=
  (rest.dropWhile (isModifier g)).head?.any (isNoun g)

/-- The chunk without the modifiers that lead to a noun. -/
def bracketed (g : Graph) : List MachineId → List MachineId
  | [] => []
  | id :: rest => if isModifier g id && leadsToNoun g rest then bracketed g rest else id :: bracketed g rest

/-- The modifiers directly in front of a machine, the nearest first. -/
def block (g : Graph) (before : List MachineId) : List MachineId :=
  before.reverse.takeWhile (isModifier g)

/-- Each noun of the chunk holds its block behind what it held in partition 0, and all else is as it was. -/
structure Brackets (chunk : List MachineId) (g g' : Graph) : Prop where
  name? : ∀ id, g'.name? id = g.name? id
  control? : ∀ id, g'.control? id = g.control? id
  contains : ∀ id, g'.contains id = g.contains id
  noun : ∀ before id after, chunk = before ++ id :: after → isNoun g id = true →
    g'.partOf id 0 = g.partOf id 0 ++ block g before
  other : ∀ id i, (i = 0 → id ∈ chunk → isNoun g id = false) → g'.partOf id i = g.partOf id i

theorem isTagged_congr (h : ∀ id, g'.control? id = g.control? id) (tags : List String) :
    isTagged tags g' = isTagged tags g := by
  funext id
  rw [isTagged, isTagged, h]

theorem bracketed_congr (h : ∀ id, g'.control? id = g.control? id) (chunk : List MachineId) :
    bracketed g' chunk = bracketed g chunk := by
  induction chunk with
  | nil => rfl
  | cons id rest ih =>
    rw [bracketed, bracketed, ih, leadsToNoun, leadsToNoun, isModifier, isNoun, isTagged_congr h, isTagged_congr h]

theorem bracketed_sublist (g : Graph) (chunk : List MachineId) : (bracketed g chunk).Sublist chunk := by
  induction chunk with
  | nil => exact List.Sublist.refl _
  | cons id rest ih =>
    rw [bracketed]
    split
    · exact ih.cons id
    · exact ih.cons_cons id

theorem bracketed_pair (ha : isModifier g a = true) (hb : isNoun g b = true) (before after : List MachineId) :
    bracketed g (before ++ a :: b :: after) = bracketed g (before ++ b :: after) := by
  have hb' : isModifier g b = false := not_isModifier_of_isNoun hb
  have hnoun : leadsToNoun g (b :: after) = true := by simp [leadsToNoun, hb', hb]
  have hsame : ∀ pre : List MachineId, leadsToNoun g (pre ++ a :: b :: after) = leadsToNoun g (pre ++ b :: after) := by
    intro pre
    unfold leadsToNoun
    induction pre with
    | nil => simp [List.dropWhile_cons, ha]
    | cons c pre ih =>
      rw [List.cons_append, List.cons_append, List.dropWhile_cons, List.dropWhile_cons]
      split
      · exact ih
      · rfl
  induction before with
  | nil => rw [List.nil_append, List.nil_append, bracketed, ha, hnoun, Bool.and_self, if_pos rfl]
  | cons c before ih =>
    rw [List.cons_append, List.cons_append, bracketed, bracketed, hsame, ih]

theorem block_append (hb : isModifier g b = false) (before mid : List MachineId) :
    block g (before ++ b :: mid) = block g mid := by
  have hreverse : (before ++ b :: mid).reverse = mid.reverse ++ b :: before.reverse := by simp
  rw [block, block, hreverse]
  induction mid.reverse with
  | nil => simp [hb]
  | cons c rest ih =>
    rw [List.cons_append, List.takeWhile_cons, List.takeWhile_cons, ih]

theorem block_concat (ha : isModifier g a = true) (before : List MachineId) :
    block g (before ++ [a]) = a :: block g before := by
  rw [block, List.reverse_append]
  simp [ha, block]

/-- The chunk has no modifier with a noun behind it. -/
def Settled (g : Graph) (chunk : List MachineId) : Prop :=
  ∀ before a b after, chunk = before ++ a :: b :: after → isModifier g a = true → isNoun g b = false

theorem exists_pair (ha : isModifier g a = true) (hrest : leadsToNoun g rest = true) :
    ∃ before m n after, a :: rest = before ++ m :: n :: after ∧ isModifier g m = true ∧ isNoun g n = true := by
  induction rest generalizing a with
  | nil => cases hrest
  | cons b rest ih =>
    cases hb : isModifier g b with
    | true =>
      rw [leadsToNoun, List.dropWhile_cons, if_pos hb] at hrest
      obtain ⟨before, m, n, after, hsplit, hm, hn⟩ := ih hb hrest
      exact ⟨a :: before, m, n, after, by rw [hsplit]; rfl, hm, hn⟩
    | false =>
      have hn : isNoun g b = true := by simpa [leadsToNoun, List.dropWhile_cons, hb] using hrest
      exact ⟨[], a, b, rest, rfl, ha, hn⟩

theorem Settled.bracketed_eq (h : Settled g chunk) : bracketed g chunk = chunk := by
  induction chunk with
  | nil => rfl
  | cons id rest ih =>
    have hrest : Settled g rest := fun before a b after hsplit =>
      h (id :: before) a b after (by rw [hsplit]; rfl)
    rw [bracketed, ih hrest, if_neg]
    intro hleads
    obtain ⟨hid, hleads⟩ := Bool.and_eq_true_iff.1 hleads
    obtain ⟨before, m, n, after, hsplit, hm, hn⟩ := exists_pair hid hleads
    rw [h before m n after hsplit hm] at hn
    cases hn

theorem Settled.of_bracketed_eq (h : bracketed g chunk = chunk) : Settled g chunk := by
  intro before a b after hsplit ha
  refine Bool.eq_false_iff.2 fun hb => ?_
  have hshorter := (bracketed_sublist g (before ++ b :: after)).length_le
  rw [← bracketed_pair ha hb, ← hsplit, h, hsplit] at hshorter
  simp at hshorter

theorem Settled.brackets (h : Settled g chunk) : Brackets chunk g g where
  name? _ := rfl
  control? _ := rfl
  contains _ := rfl
  other _ _ _ := rfl
  noun before id after hsplit hid := by
    rcases List.eq_nil_or_concat before with rfl | ⟨before, a, rfl⟩
    · exact (List.append_nil _).symm
    · rw [List.concat_eq_append] at hsplit ⊢
      have ha : isModifier g a = false := by
        refine Bool.eq_false_iff.2 fun ha => ?_
        rw [h before a id after (by rw [hsplit, List.append_assoc]; rfl) ha] at hid
        cases hid
      rw [block_append ha]
      exact (List.append_nil _).symm

/-- A machine of the chunk that is not the first of the pair stands behind the pair, or is the second of it, or stands
before it. -/
theorem pair_cases {pre post : List MachineId} (h : before ++ a :: b :: after = pre ++ id :: post) (hne : id ≠ a) :
    (∃ mid, pre = before ++ a :: b :: mid ∧ after = mid ++ id :: post) ∨
    (pre = before ++ [a] ∧ id = b) ∨
    ∃ mid, before = pre ++ id :: mid ∧ post = mid ++ a :: b :: after := by
  rcases List.append_eq_append_iff.1 h with ⟨mid, rfl, htail⟩ | ⟨mid, rfl, htail⟩
  · rcases mid with _ | ⟨c, _ | ⟨d, mid⟩⟩
    · cases htail
      exact absurd rfl hne
    · cases htail
      exact .inr (.inl ⟨rfl, rfl⟩)
    · cases htail
      exact .inl ⟨mid, rfl, rfl⟩
  · rcases mid with _ | ⟨c, mid⟩
    · cases htail
      exact absurd rfl hne
    · cases htail
      exact .inr (.inr ⟨mid, rfl, rfl⟩)

/-- A pair is reduced: the noun gets the modifier, and behind it what the rest of the reduction gives it. -/
theorem Brackets.of_append (hnodup : (before ++ a :: b :: after).Nodup) (ha : isModifier g a = true)
    (hb : isNoun g b = true) (hnew : ¬ g.Holds b 0 a) (happend : g.append b a 0 = .ok g')
    (h : Brackets (before ++ b :: after) g' g'') : Brackets (before ++ a :: b :: after) g g'' := by
  have hcontrol := Graph.control?_append happend
  have hmodifier : isModifier g' = isModifier g := isTagged_congr hcontrol _
  have hisNoun : isNoun g' = isNoun g := isTagged_congr hcontrol _
  have hblock : block g' = block g := by
    funext pre
    rw [block, block, hmodifier]
  have ha' : isNoun g a = false := not_isNoun_of_isModifier ha
  have hb' : isModifier g b = false := not_isModifier_of_isNoun hb
  have hheld : g'.partOf b 0 = g.partOf b 0 ++ [a] := by
    have hfresh : a ∉ g.partOf b 0 := mt Graph.mem_partOf_iff.1 hnew
    rw [Graph.partOf_append happend, if_pos ⟨rfl, rfl⟩, Graph.addNew, if_neg hfresh]
  have hkept : ∀ id i, (i = 0 → id ≠ b) → g'.partOf id i = g.partOf id i := by
    intro id i hne
    rw [Graph.partOf_append happend, if_neg]
    rintro ⟨rfl, rfl⟩
    exact hne rfl rfl
  refine ⟨fun id => (h.name? id).trans (Graph.name?_append happend id), fun id => (h.control? id).trans (hcontrol id),
    fun id => (h.contains id).trans (Graph.contains_append happend), ?_, ?_⟩
  · intro pre id post hsplit hid
    have hid' : isNoun g' id = true := by rwa [hisNoun]
    have hne : id ≠ a := by
      rintro rfl
      rw [ha'] at hid
      cases hid
    rcases pair_cases hsplit hne with ⟨mid, rfl, rfl⟩ | ⟨rfl, rfl⟩ | ⟨mid, rfl, rfl⟩
    · have hbehind : id ≠ b := by
        rintro rfl
        simp [List.nodup_append] at hnodup
      have hlonger : before ++ a :: b :: mid = (before ++ [a]) ++ b :: mid := by simp
      rw [h.noun (before ++ b :: mid) id post (by simp) hid', hkept id 0 fun _ => hbehind, hblock,
        block_append hb', hlonger, block_append hb']
    · rw [h.noun before id after rfl hid', hheld, hblock, block_concat ha, List.append_assoc]
      rfl
    · have hbefore : id ≠ b := by
        rintro rfl
        simp [List.nodup_append] at hnodup
      rw [h.noun pre id (mid ++ b :: after) (by simp) hid', hkept id 0 fun _ => hbefore, hblock]
  · intro id i hother
    have hmem : ∀ id, id ∈ before ++ b :: after → id ∈ before ++ a :: b :: after := by
      intro id hid
      simp only [List.mem_append, List.mem_cons] at hid ⊢
      exact hid.imp_right .inr
    rw [h.other id i fun hi hid => by rw [hisNoun]; exact hother hi (hmem id hid)]
    refine hkept id i fun hi => ?_
    rintro rfl
    rw [hother hi (by simp)] at hb
    cases hb

/-! ## Reducing -/

theorem not_quiet {r : AppendRule} (hr : r ∈ rules) (hcheck : r.check l.graph [a, b] = true) (hne : a ≠ b)
    (hnew : ¬ l.graph.Holds b 0 a) (ha : l.graph.contains a = true) (hb : l.graph.contains b = true) :
    ¬ Chunk.Quiet r l [a, b] := by
  intro hquiet
  obtain ⟨hroles, hpartition⟩ := roles_of_mem (a := a) (b := b) hr
  obtain ⟨m, hm⟩ := Graph.contains_iff.1 hb
  have hlast : r.lastCheck l.graph [a, b] = true := by
    have hfresh : a ∉ m.part 0 := fun hmem => hnew ⟨m, hm, hmem⟩
    simp [AppendRule.lastCheck, hroles, hpartition, hm, hne, hfresh]
  obtain ⟨g', happend⟩ := Graph.exists_append hb ha 0
  have hact := hquiet hcheck
  rw [AppendRule.act_pair, hlast, hcheck, hroles, hpartition, Bool.and_self, if_pos rfl,
    bind_eq_of_ok (Lexicon.changeGraph_of_ok happend)] at hact
  cases hact

/-- Different live machines, none of which stands in partition 0 of another. -/
structure Loose (chunk : List MachineId) (g : Graph) : Prop where
  nodup : chunk.Nodup
  live : ∀ id ∈ chunk, g.contains id = true
  apart : ∀ x ∈ chunk, ∀ y ∈ chunk, x ≠ y → ¬ g.Holds x 0 y

theorem Loose.ne (h : Loose (before ++ a :: b :: after) g) : a ≠ b := by
  rintro rfl
  have hnodup := h.nodup
  simp [List.nodup_append] at hnodup

theorem Loose.not_holds (h : Loose (before ++ a :: b :: after) g) : ¬ g.Holds b 0 a :=
  h.apart b (by simp) a (by simp) h.ne.symm

/-- The modifier that goes is the only new child, so what is left is loose. -/
theorem Loose.of_append (h : Loose (before ++ a :: b :: after) g) (happend : g.append b a 0 = .ok g') :
    Loose (before ++ b :: after) g' := by
  have hsub : (before ++ b :: after).Sublist (before ++ a :: b :: after) :=
    (List.Sublist.refl before).append (List.sublist_cons_self a _)
  have hgone : a ∉ before ++ b :: after := by
    have hperm : (before ++ a :: b :: after).Perm (a :: (before ++ b :: after)) := List.perm_middle
    exact (List.nodup_cons.1 (hperm.nodup h.nodup)).1
  refine ⟨hsub.nodup h.nodup, fun id hid => ?_, fun x hx y hy hne hold => ?_⟩
  · exact (Graph.contains_append happend).trans (h.live id (hsub.subset hid))
  · rcases (Graph.holds_append happend).1 hold with hold | ⟨-, -, rfl⟩
    · exact h.apart x (hsub.subset hx) y (hsub.subset hy) hne hold
    · exact hgone hy

/-- One pass: the chunk is settled and stays as it is, or a modifier goes into the noun behind it. -/
theorem Loose.pass (h : Loose chunk l.graph) :
    (Settled l.graph chunk ∧ Chunk.reduceIn (Window.all chunk) (rules.map Construction.append, l) =
      .ok none (rules.map Construction.append, l)) ∨
    ∃ before a b after g', chunk = before ++ a :: b :: after ∧ isModifier l.graph a = true ∧
      isNoun l.graph b = true ∧ l.graph.append b a 0 = .ok g' ∧
      Chunk.reduceIn (Window.all chunk) (rules.map Construction.append, l) =
        .ok (some (before ++ b :: after)) (rules.map Construction.append, { l with graph := g' }) := by
  rcases Chunk.reduceIn_cases rules h.live fun w hw => (Window.mem_all.1 hw).2 with
    ⟨hquiet, hnone⟩ | ⟨⟨before, inside, after⟩, hw, r, hr, new, l₁, hsome, hfires⟩
  · refine .inl ⟨?_, hnone⟩
    rintro before a b after rfl ha
    refine Bool.eq_false_iff.2 fun hb => ?_
    obtain ⟨r, hr, hcheck⟩ := exists_check_iff.2 ⟨ha, hb⟩
    have hwindow : (⟨before, [a, b], after⟩ : Window MachineId) ∈ Window.all (before ++ a :: b :: after) :=
      Window.mem_all.2 ⟨List.cons_ne_nil _ _, by simp⟩
    exact not_quiet hr hcheck h.ne h.not_holds (h.live a (by simp)) (h.live b (by simp)) (hquiet _ hwindow r hr)
  · obtain ⟨-, hsplit⟩ := Window.mem_all.1 hw
    obtain ⟨a, b, g', hinside, hcheck, happend, rfl, rfl⟩ := hfires
    simp only at hinside hsplit hcheck
    subst hinside
    obtain ⟨hroles, hpartition⟩ := roles_of_mem (a := a) (b := b) hr
    rw [hroles, hpartition] at happend
    obtain ⟨ha, hb⟩ := exists_check_iff.1 ⟨r, hr, hcheck⟩
    refine .inr ⟨before, a, b, after, g', by simpa using hsplit, ha, hb, happend, ?_⟩
    rw [hsome, hroles]
    simp [Window.splice]

/-- A chunk of different live machines, none of which stands in partition 0 of another, is reduced to its brackets: the
modifiers that lead to a noun go, each noun holds its block, the nearest modifier first, and there are as many
reductions as machines that went.  A budget of so many reductions is enough; the induction is on the budget. -/
theorem reduce_brackets (l : Lexicon) (chunk : List MachineId) (budget : Nat) (hnodup : chunk.Nodup)
    (hlive : ∀ id ∈ chunk, l.graph.contains id = true)
    (hapart : ∀ x ∈ chunk, ∀ y ∈ chunk, x ≠ y → ¬ l.graph.Holds x 0 y)
    (hbudget : chunk.length ≤ budget + (bracketed l.graph chunk).length) :
    ∃ n g', Chunk.reduce budget chunk (rules.map Construction.append, l) =
        .ok (n, bracketed l.graph chunk) (rules.map Construction.append, { l with graph := g' }) ∧
      n + (bracketed l.graph chunk).length = chunk.length ∧ Brackets chunk l.graph g' := by
  have hloose : Loose chunk l.graph := ⟨hnodup, hlive, hapart⟩
  clear hnodup hlive hapart
  induction budget generalizing l chunk with
  | zero =>
    rw [Nat.zero_add] at hbudget
    have hself := (bracketed_sublist l.graph chunk).eq_of_length_le hbudget
    refine ⟨0, l.graph, ?_, by rw [hself, Nat.zero_add], (Settled.of_bracketed_eq hself).brackets⟩
    rw [hself]
    rfl
  | succ budget ih =>
    rcases hloose.pass with ⟨hsettled, hnone⟩ | ⟨before, a, b, after, g₁, rfl, ha, hb, happend, hsome⟩
    · rw [hsettled.bracketed_eq]
      refine ⟨0, l.graph, ?_, Nat.zero_add _, hsettled.brackets⟩
      rw [Chunk.reduce, bind_eq_of_ok hnone]
      rfl
    · have hsame : bracketed l.graph (before ++ a :: b :: after) = bracketed g₁ (before ++ b :: after) :=
        (bracketed_pair ha hb before after).trans (bracketed_congr (Graph.control?_append happend) _).symm
      have hshorter : (before ++ a :: b :: after).length = (before ++ b :: after).length + 1 := by
        simp only [List.length_append, List.length_cons]
        omega
      have hless : (before ++ b :: after).length ≤ budget + (bracketed g₁ (before ++ b :: after)).length := by
        rw [← hsame]
        omega
      obtain ⟨n, g', hrun, hcount, hbrackets⟩ :=
        ih { l with graph := g₁ } (before ++ b :: after) hless (hloose.of_append happend)
      refine ⟨n + 1, g', ?_, ?_, .of_append hloose.nodup ha hb hloose.not_holds happend hbrackets⟩
      · rw [Chunk.reduce, bind_eq_of_ok hsome, hsame]
        exact (bind_eq_of_ok hrun).trans rfl
      · rw [hsame]
        simp only at hcount
        omega

/-- Two trains and what is said of them, in codes and plain tags. -/
def twoTrains : Lexicon :=
  Lexicon.empty.replay [.create "the" (some (.pos "ART")), .create "old" (some (.pos "ADJ")),
    .create "train" (some (.kr ⟨"NOUN", []⟩)), .create "leaves" (some (.pos "VERB")),
    .create "two" (some (.pos "NUM")), .create "trains" (some (.pos "NOUN<PLUR>"))]

/-- Both nouns hold their modifiers, and the verb is where it was. -/
theorem reduce_brackets_twoTrains :
    ∃ g', Chunk.reduce 3 [⟨0, 1⟩, ⟨1, 1⟩, ⟨2, 1⟩, ⟨3, 1⟩, ⟨4, 1⟩, ⟨5, 1⟩]
        (rules.map Construction.append, twoTrains) =
        .ok (3, [⟨2, 1⟩, ⟨3, 1⟩, ⟨5, 1⟩]) (rules.map Construction.append, { twoTrains with graph := g' }) ∧
      g'.partOf ⟨2, 1⟩ 0 = [⟨1, 1⟩, ⟨0, 1⟩] ∧ g'.partOf ⟨5, 1⟩ 0 = [⟨4, 1⟩] := by
  have hbracketed : bracketed twoTrains.graph [⟨0, 1⟩, ⟨1, 1⟩, ⟨2, 1⟩, ⟨3, 1⟩, ⟨4, 1⟩, ⟨5, 1⟩] =
      [⟨2, 1⟩, ⟨3, 1⟩, ⟨5, 1⟩] := by decide +kernel
  have hapart : ∀ x ∈ [(⟨0, 1⟩ : MachineId), ⟨1, 1⟩, ⟨2, 1⟩, ⟨3, 1⟩, ⟨4, 1⟩, ⟨5, 1⟩],
      twoTrains.graph.partOf x 0 = [] := by decide +kernel
  obtain ⟨n, g', hrun, hcount, hbrackets⟩ :=
    reduce_brackets twoTrains [⟨0, 1⟩, ⟨1, 1⟩, ⟨2, 1⟩, ⟨3, 1⟩, ⟨4, 1⟩, ⟨5, 1⟩] 3 (by decide) (by decide +kernel)
      (fun x hx y _ _ hold => by
        have hmem := Graph.mem_partOf_iff.2 hold
        rw [hapart x hx] at hmem
        exact List.not_mem_nil hmem)
      (by rw [hbracketed]; decide)
  rw [hbracketed] at hrun hcount
  obtain rfl : n = 3 := by simpa using hcount
  refine ⟨g', hrun, ?_, ?_⟩
  · rw [hbrackets.noun [⟨0, 1⟩, ⟨1, 1⟩] ⟨2, 1⟩ [⟨3, 1⟩, ⟨4, 1⟩, ⟨5, 1⟩] rfl (by decide +kernel)]
    decide +kernel
  · rw [hbrackets.noun [⟨0, 1⟩, ⟨1, 1⟩, ⟨2, 1⟩, ⟨3, 1⟩, ⟨4, 1⟩] ⟨5, 1⟩ [] rfl (by decide +kernel)]
    decide +kernel

end MeaningGraph.NounPhrase
