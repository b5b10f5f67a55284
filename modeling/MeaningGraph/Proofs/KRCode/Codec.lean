/-
# Reading and writing KR codes

A code can also be read with two expressions.  The first one looks at the whole text and tells the part of speech
from the features; the second one finds the features one after the other, with no regard to what the first has
seen in them.

    ([^<>]+)((?:<[^<>]+(?:<[^<>]*>)?>)*)      a whole code
    <([^<>]+?)(?:<([^<>]*)>)?>                a feature

The key in the second may be as short as can be, and the value may be left out, and still both see the same
features.  Behind a key there stands a bracket, so there is no choice where it ends; and at the beginning of
features in a row just one feature is spelled.  So `scan?`, which reads in that way, and `parse?` agree on every
text (`scan?_eq_parse?`).
-/
import MeaningGraph.Proofs.KRCode.Expression
import MeaningGraph.Proofs.KRCode.Grammar

namespace MeaningGraph

/-! ## Two expressions -/

/-- A feature, with expressions for its key and its value. -/
def featureWith (key value : Expression) : Expression :=
  .seq (.char '<') (.seq key (.seq (.opt (.seq (.char '<') (.seq value (.char '>')))) (.char '>')))

/-- A whole code.  Group 1 is its part of speech, group 2 are its features. -/
def codeExpression : Expression :=
  .seq (.group 1 (.atLeastOnce true (.set isPlain)))
    (.group 2 (.many true (featureWith (.atLeastOnce true (.set isPlain)) (.many true (.set isPlain)))))

/-- A feature.  Group 1 is its key, group 2 its value. -/
def featureExpression : Expression :=
  featureWith (.group 1 (.atLeastOnce false (.set isPlain))) (.group 2 (.many true (.set isPlain)))

/-- The feature that a match has found; without a value it is a flag. -/
def Feature.ofWay? (w : Way) : Option Feature := do
  let key ← w.group? 1
  return ⟨String.ofList key, String.ofList ((w.group? 2).getD [])⟩

/-- Reads a code with the two expressions. -/
def KRCode.scan? (text : String) : Option KRCode := do
  let code ← codeExpression.matchWhole? text.toList
  let pos ← code.group? 1
  return ⟨String.ofList pos, (featureExpression.findAll ((code.group? 2).getD [])).filterMap Feature.ofWay?⟩

variable {key value : Expression} {t rest : List Char} {gs : List (Nat × List Char)} {f : Feature}
  {fs : List Feature} {pieces : List String} {k : KRCode} {s : String} {w : Way}

/-! ## What they take -/

open Expression

theorem takes_featureWith_iff :
    (featureWith key value).Takes t gs ↔
      (∃ a, key.Takes a gs ∧ t = '<' :: (a ++ ['>'])) ∨
      ∃ a b hs is, key.Takes a hs ∧ value.Takes b is ∧ gs = hs ++ is ∧
        t = '<' :: (a ++ '<' :: (b ++ ['>', '>'])) := by
  constructor
  · intro h
    simp only [featureWith, takes_seq_iff, takes_opt_iff, takes_char_iff] at h
    obtain ⟨_, _, _, _, ⟨rfl, rfl⟩, ⟨a, _, hs, _, ha, ⟨_, _, _, _, hvalue, ⟨rfl, rfl⟩, rfl, rfl⟩, rfl, rfl⟩,
      rfl, rfl⟩ := h
    rcases hvalue with ⟨_, _, _, _, ⟨rfl, rfl⟩, ⟨b, _, is, _, hb, ⟨rfl, rfl⟩, rfl, rfl⟩, rfl, rfl⟩ | ⟨rfl, rfl⟩
    · exact .inr ⟨a, b, hs, is, ha, hb, by simp, by simp⟩
    · exact .inl ⟨a, by simpa using ha, by simp⟩
  · have hopen : (char '<').Takes ['<'] [] := takes_char_iff.2 ⟨rfl, rfl⟩
    have hclose : (char '>').Takes ['>'] [] := takes_char_iff.2 ⟨rfl, rfl⟩
    rintro (⟨a, ha, rfl⟩ | ⟨a, b, hs, is, ha, hb, rfl, rfl⟩)
    · simpa [featureWith] using hopen.seq (ha.seq (Takes.without.seq hclose))
    · simpa [featureWith] using hopen.seq (ha.seq ((hopen.seq (hb.seq hclose)).opt.seq hclose))

theorem takes_key_iff {greedy : Bool} :
    (atLeastOnce greedy (.set isPlain)).Takes t gs ↔ gs = [] ∧ t ≠ [] ∧ AngleFree t := by
  rw [takes_atLeastOnce_set_iff, angleFree_iff]

theorem takes_value_iff {greedy : Bool} :
    (Expression.many greedy (.set isPlain)).Takes t gs ↔ gs = [] ∧ AngleFree t := by
  rw [takes_many_set_iff, angleFree_iff]

theorem takes_feature_iff :
    (featureWith (atLeastOnce true (.set isPlain)) (.many true (.set isPlain))).Takes t gs ↔
      gs = [] ∧ ∃ f s, Feature.Written f s ∧ t = s.toList := by
  rw [takes_featureWith_iff]
  constructor
  · rintro (⟨a, ha, rfl⟩ | ⟨a, b, hs, is, ha, hb, rfl, rfl⟩)
    · obtain ⟨rfl, hne, hkey⟩ := takes_key_iff.1 ha
      obtain ⟨s, hs, htext⟩ := Feature.exists_written_flag hne hkey
      exact ⟨rfl, _, s, hs, htext.symm⟩
    · obtain ⟨rfl, hne, hkey⟩ := takes_key_iff.1 ha
      obtain ⟨rfl, hvalue⟩ := takes_value_iff.1 hb
      obtain ⟨s, hs, htext⟩ := Feature.exists_written_valued hne hkey hvalue
      exact ⟨rfl, _, s, hs, htext.symm⟩
  · rintro ⟨rfl, f, s, hs, rfl⟩
    cases hs with
    | @flag key hne hkey =>
      exact .inl ⟨key.toList, takes_key_iff.2 ⟨rfl, toList_ne_nil hne, hkey⟩, Feature.toList_flag key⟩
    | @valued key value hne hkey hvalue =>
      exact .inr ⟨key.toList, value.toList, [], [], takes_key_iff.2 ⟨rfl, toList_ne_nil hne, hkey⟩,
        takes_value_iff.2 ⟨rfl, hvalue⟩, rfl, Feature.toList_valued key value⟩

theorem takes_features_iff :
    (Expression.many true (featureWith (atLeastOnce true (.set isPlain)) (.many true (.set isPlain)))).Takes t gs ↔
      gs = [] ∧ ∃ fs pieces, List.Forall₂ Feature.Written fs pieces ∧ t = (String.join pieces).toList := by
  constructor
  · intro h
    refine h.rounds_induction (motive := fun t gs =>
      gs = [] ∧ ∃ fs pieces, List.Forall₂ Feature.Written fs pieces ∧ t = (String.join pieces).toList)
      ⟨rfl, [], [], .nil, by simp⟩ ?_
    rintro t u hs is hfeature ⟨rfl, fs, pieces, hpieces, rfl⟩
    obtain ⟨rfl, f, s, hs, rfl⟩ := takes_feature_iff.1 hfeature
    exact ⟨rfl, f :: fs, s :: pieces, .cons hs hpieces, (toList_join_cons s pieces).symm⟩
  · rintro ⟨rfl, fs, pieces, hpieces, rfl⟩
    induction hpieces with
    | nil => simpa using Takes.stop
    | @cons f s fs pieces hs _ ih =>
      obtain ⟨cs, hcs⟩ := hs.exists_cons
      rw [toList_join_cons]
      exact .round (by simp [hcs]) (takes_feature_iff.2 ⟨rfl, f, s, hs, rfl⟩) ih

theorem takes_codeExpression_iff :
    codeExpression.Takes s.toList gs ↔
      ∃ pos fs pieces, pos ≠ "" ∧ AngleFree pos.toList ∧ List.Forall₂ Feature.Written fs pieces ∧
        s = pos ++ String.join pieces ∧ gs = [(1, pos.toList), (2, (String.join pieces).toList)] := by
  simp only [codeExpression, takes_seq_iff, takes_group_iff, takes_key_iff, takes_features_iff]
  constructor
  · rintro ⟨pos, _, _, _, ⟨_, ⟨rfl, hne, hfree⟩, rfl⟩, ⟨_, ⟨rfl, fs, pieces, hpieces, rfl⟩, rfl⟩, hs, rfl⟩
    refine ⟨String.ofList pos, fs, pieces, ofList_ne_empty hne, ?_, hpieces, ?_, ?_⟩
    · rwa [String.toList_ofList]
    · rw [← String.toList_inj, hs, String.toList_append, String.toList_ofList]
    · rw [String.toList_ofList]
      rfl
  · rintro ⟨pos, fs, pieces, hne, hfree, hpieces, rfl, rfl⟩
    exact ⟨pos.toList, _, _, _, ⟨[], ⟨rfl, toList_ne_nil hne, hfree⟩, rfl⟩,
      ⟨[], ⟨rfl, fs, pieces, hpieces, rfl⟩, rfl⟩, String.toList_append, rfl⟩

theorem written_of_takes_featureExpression (h : featureExpression.Takes w.taken w.groups) :
    ∃ f s, Feature.Written f s ∧ w.taken = s.toList ∧ Feature.ofWay? w = some f := by
  obtain ⟨taken, groups, rest⟩ := w
  rw [featureExpression, takes_featureWith_iff] at h
  rcases h with ⟨a, ha, htaken⟩ | ⟨a, b, hs, is, ha, hb, hgroups, htaken⟩
  · obtain ⟨_, ha', hgroups⟩ := takes_group_iff.1 ha
    obtain ⟨rfl, hne, hkey⟩ := takes_key_iff.1 ha'
    obtain rfl : groups = [(1, a)] := hgroups
    obtain ⟨s, hs, htext⟩ := Feature.exists_written_flag hne hkey
    exact ⟨_, s, hs, htaken.trans htext.symm, rfl⟩
  · obtain ⟨_, ha', rfl⟩ := takes_group_iff.1 ha
    obtain ⟨rfl, hne, hkey⟩ := takes_key_iff.1 ha'
    obtain ⟨_, hb', rfl⟩ := takes_group_iff.1 hb
    obtain ⟨rfl, hvalue⟩ := takes_value_iff.1 hb'
    obtain rfl : groups = [(1, a), (2, b)] := hgroups
    obtain ⟨s, hs, htext⟩ := Feature.exists_written_valued hne hkey hvalue
    exact ⟨_, s, hs, htaken.trans htext.symm, rfl⟩

theorem exists_takes_featureExpression (h : Feature.Written f s) :
    ∃ gs, featureExpression.Takes s.toList gs := by
  cases h with
  | @flag key hne hkey =>
    refine ⟨_, takes_featureWith_iff.2 (.inl ⟨key.toList,
      .group (takes_key_iff.2 ⟨rfl, toList_ne_nil hne, hkey⟩), ?_⟩)⟩
    exact Feature.toList_flag key
  | @valued key value hne hkey hvalue =>
    refine ⟨_, takes_featureWith_iff.2 (.inr ⟨key.toList, value.toList, _, _,
      .group (takes_key_iff.2 ⟨rfl, toList_ne_nil hne, hkey⟩), .group (takes_value_iff.2 ⟨rfl, hvalue⟩), rfl, ?_⟩)⟩
    exact Feature.toList_valued key value

/-! ## Both readings agree -/

theorem find?_featureExpression (h : Feature.Written f s) (rest : List Char) :
    ∃ w, featureExpression.find? (s.toList ++ rest) = some w ∧ w.rest = rest ∧ Feature.ofWay? w = some f := by
  obtain ⟨gs, hgs⟩ := exists_takes_featureExpression h
  obtain ⟨w, hw, htext, htakes⟩ := exists_find? hgs rest
  obtain ⟨f', s', hs', htaken, hf'⟩ := written_of_takes_featureExpression htakes
  rw [htaken] at htext
  obtain ⟨rfl, -, hrest⟩ := h.unique hs' htext
  exact ⟨w, hw, hrest.symm, hf'⟩

/-- The induction is on the features; each match ends where the next feature begins. -/
theorem findAll_featureExpression (h : List.Forall₂ Feature.Written fs pieces) :
    (featureExpression.findAll (String.join pieces).toList).filterMap Feature.ofWay? = fs := by
  induction h with
  | nil =>
    have hnone : featureExpression.find? [] = none := rfl
    simp [findAll, hnone]
  | @cons f s fs pieces hs _ ih =>
    obtain ⟨cs, hcs⟩ := hs.exists_cons
    obtain ⟨w, hw, hrest, hf⟩ := find?_featureExpression hs (String.join pieces).toList
    have hlt : w.rest.length < (s.toList ++ (String.join pieces).toList).length := by
      rw [hrest, hcs, List.length_append, List.length_cons]
      omega
    rw [toList_join_cons, findAll_of_find? hw hlt, List.filterMap_cons, hf, hrest, ih]

namespace KRCode

theorem exists_scan?_of_matchWhole? (h : codeExpression.matchWhole? s.toList = some w) :
    ∃ k, k.Written s ∧ scan? s = some k := by
  obtain ⟨pos, fs, pieces, hne, hfree, hpieces, hs, hgroups⟩ :=
    takes_codeExpression_iff.1 (takes_of_matchWhole? h)
  have hpos : w.group? 1 = some pos.toList := by
    rw [Way.group?, hgroups]
    rfl
  have hrest : w.group? 2 = some (String.join pieces).toList := by
    rw [Way.group?, hgroups]
    rfl
  refine ⟨⟨pos, fs⟩, ⟨hne, hfree, pieces, hpieces, hs⟩, ?_⟩
  rw [scan?, h]
  show (w.group? 1).bind _ = _
  rw [hpos, hrest]
  show some (⟨String.ofList pos.toList, _⟩ : KRCode) = _
  rw [String.ofList_toList, Option.getD_some, findAll_featureExpression hpieces]

/-- Reading with the two expressions and reading bracket by bracket agree. -/
theorem scan?_eq_parse? (s : String) : scan? s = parse? s := by
  cases hmatch : codeExpression.matchWhole? s.toList with
  | some w =>
    obtain ⟨k, hk, hscan⟩ := exists_scan?_of_matchWhole? hmatch
    rw [hscan, parse?_eq_some_iff.2 hk]
  | none =>
    have hscan : scan? s = none := by
      rw [scan?, hmatch]
      rfl
    rw [hscan]
    refine (Option.eq_none_iff_forall_ne_some.2 ?_).symm
    intro k hread
    obtain ⟨hne, hfree, pieces, hpieces, hs⟩ := parse?_eq_some_iff.1 hread
    obtain ⟨w, hw⟩ := exists_matchWhole?
      (takes_codeExpression_iff.2 ⟨k.pos, k.features, pieces, hne, hfree, hpieces, hs, rfl⟩)
    rw [hmatch] at hw
    cases hw

/-! ## Reading and writing -/

/-- A text is read as the code that it spells, by either reading, and as none if it spells none.  The codes that are
read back from what is written for them are the well-formed ones.  What is written for a code that was read is the
text with its flags made short, and is read as the same code again. -/
theorem parse?_codec (s : String) (k : KRCode) :
    (parse? s = some k ↔ k.Written s) ∧
    scan? s = parse? s ∧
    (parse? k.render = some k ↔ k.WellFormed) ∧
    (parse? s = some k →
      k.render.toList = shortenFlags s.toList ∧ parse? k.render = some k) := by
  refine ⟨parse?_eq_some_iff, scan?_eq_parse? s, ?_, ?_⟩
  · constructor
    · intro h
      exact (parse?_eq_some_iff.1 h).wellFormed
    · intro h
      exact parse?_eq_some_iff.2 h.written_render
  · intro h
    have hwritten := parse?_eq_some_iff.1 h
    exact ⟨hwritten.toList_render, parse?_eq_some_iff.2 hwritten.wellFormed.written_render⟩

/-- A plural in the accusative, with the plural in its long form. -/
theorem parse?_codec_plural :
    parse? "NOUN<PLUR<>><CAS<ACC>>" = some ⟨"NOUN", [⟨"PLUR", ""⟩, ⟨"CAS", "ACC"⟩]⟩ ∧
    render ⟨"NOUN", [⟨"PLUR", ""⟩, ⟨"CAS", "ACC"⟩]⟩ = "NOUN<PLUR><CAS<ACC>>" ∧
    parse? "NOUN<PLUR><CAS<ACC>>" = some ⟨"NOUN", [⟨"PLUR", ""⟩, ⟨"CAS", "ACC"⟩]⟩ := by
  have hplural : Feature.Written ⟨"PLUR", ""⟩ ("<" ++ "PLUR" ++ "<" ++ "" ++ ">>") :=
    .valued (by decide) (by decide) (by decide)
  have haccusative : Feature.Written ⟨"CAS", "ACC"⟩ ("<" ++ "CAS" ++ "<" ++ "ACC" ++ ">>") :=
    .valued (by decide) (by decide) (by decide)
  have hread : parse? "NOUN<PLUR<>><CAS<ACC>>" = some ⟨"NOUN", [⟨"PLUR", ""⟩, ⟨"CAS", "ACC"⟩]⟩ :=
    (parse?_codec _ _).1.2
      ⟨by decide, by decide, _, .cons hplural (.cons haccusative .nil), by decide⟩
  obtain ⟨hrender, hagain⟩ := (parse?_codec _ _).2.2.2 hread
  have hshort : render ⟨"NOUN", [⟨"PLUR", ""⟩, ⟨"CAS", "ACC"⟩]⟩ = "NOUN<PLUR><CAS<ACC>>" :=
    String.toList_inj.1 (hrender.trans (by decide))
  exact ⟨hread, hshort, hshort ▸ hagain⟩

end KRCode

end MeaningGraph
