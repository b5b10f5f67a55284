/-
# What a tag is read as

A tag ends in a code, behind its last slash; what stands in front of it is the stem, and may have slashes and
brackets of its own.  The code alone decides:

| code | read as |
| :-- | :-- |
| without `<`, and not empty | the part of speech of that name |
| a KR code with a feature | that KR code |
| empty, or with `<` and no KR code | refused |

That no `>` stands in a part of speech either is not looked at.  So a closing bracket that nothing opened gets
through: `train/NOUN>` is read as a part of speech that no KR code can have (`stray_bracket_train`).  With all
other tags the table sorts them as well as one that asks for parts of speech without brackets (`ofTag_sorts`).

A KR code can be written behind any stem and is read back if no slash stands in it (`ofTag_stem`).  If one does,
the code is taken for a stem in part.  It cannot be otherwise, as two stems with two codes may make one tag
(`shared_tag_green`).
-/
import Mathlib.Data.List.TakeWhile
import MeaningGraph.Control
import MeaningGraph.Proofs.KRCode.Grammar

namespace MeaningGraph

namespace Control

/-- The tag ends in the code, which begins behind the last slash, or with the tag if that has no slash. -/
def IsCode (tag code : String) : Prop :=
  '/' ∉ code.toList ∧ (tag = code ∨ ∃ stem, tag = stem ++ "/" ++ code)

variable {tag code text : String} {k : KRCode}

/-! ## The code of a tag -/

theorem takeWhile_append_slash (cs ds : List Char) :
    (cs ++ '/' :: ds).takeWhile (· != '/') = cs.takeWhile (· != '/') := by
  induction cs with
  | nil => rfl
  | cons c cs ih =>
    by_cases hc : c = '/'
    · simp [hc]
    · simp [hc, ih]

theorem tagCode_stem (stem text : List Char) : tagCode (stem ++ '/' :: text) = tagCode text := by
  rw [tagCode, List.reverse_append, List.reverse_cons, List.append_assoc, List.singleton_append,
    takeWhile_append_slash, tagCode]

theorem tagCode_eq_self {cs : List Char} (h : '/' ∉ cs) : tagCode cs = cs := by
  have hall : ∀ c ∈ cs.reverse, (c != '/') = true := by
    intro c hc
    have hne : c ≠ '/' := fun heq => h (heq ▸ List.mem_reverse.1 hc)
    simpa using hne
  rw [tagCode, List.takeWhile_eq_self_iff.2 hall, List.reverse_reverse]

theorem toList_stem (stem text : String) :
    (stem ++ "/" ++ text).toList = stem.toList ++ '/' :: text.toList := by
  simp [String.toList_append]

theorem IsCode.tagCode_eq (h : IsCode tag code) : tagCode tag.toList = code.toList := by
  rcases h.2 with rfl | ⟨stem, rfl⟩
  · exact tagCode_eq_self h.1
  · rw [toList_stem, tagCode_stem, tagCode_eq_self h.1]

theorem exists_split_at_slash (cs : List Char) :
    ∃ code, '/' ∉ code ∧ (cs = code ∨ ∃ stem, cs = stem ++ '/' :: code) := by
  induction cs with
  | nil => exact ⟨[], List.not_mem_nil, .inl rfl⟩
  | cons c cs ih =>
    obtain ⟨code, hcode, rfl | ⟨stem, rfl⟩⟩ := ih
    · by_cases hc : c = '/'
      · subst hc
        exact ⟨cs, hcode, .inr ⟨[], rfl⟩⟩
      · exact ⟨c :: cs, by simp [Ne.symm hc, hcode], .inl rfl⟩
    · exact ⟨code, hcode, .inr ⟨c :: stem, rfl⟩⟩

theorem exists_isCode (tag : String) : ∃ code, IsCode tag code := by
  obtain ⟨code, hcode, hsplit⟩ := exists_split_at_slash tag.toList
  refine ⟨String.ofList code, by rwa [String.toList_ofList], ?_⟩
  rcases hsplit with hself | ⟨stem, hstem⟩
  · exact .inl (by rw [← hself, String.ofList_toList])
  · refine .inr ⟨String.ofList stem, String.toList_inj.1 ?_⟩
    rw [hstem, toList_stem, String.toList_ofList, String.toList_ofList]

theorem ne_empty_of_mem {c : Char} (h : c ∈ text.toList) : text ≠ "" := by
  rintro rfl
  exact absurd h List.not_mem_nil

/-! ## Reading -/

/-- The code decides what a tag is read as; the tag itself is reported if it is refused. -/
theorem IsCode.ofTag_eq (h : IsCode tag code) :
    ofTag tag =
      if code = "" then .error (.invalidTag tag)
      else if '<' ∈ code.toList then
        match KRCode.parse? code with
        | some k => .ok (.kr k)
        | none => .error (.invalidTag tag)
      else .ok (.pos code) := by
  have hempty : code.toList.isEmpty = true ↔ code = "" := by
    rw [List.isEmpty_iff, String.toList_eq_nil_iff]
  rw [ofTag, h.tagCode_eq, String.ofList_toList]
  exact if_congr hempty rfl (if_congr List.contains_iff_mem rfl rfl)

/-- The four kinds of codes, and what is answered for each. -/
theorem IsCode.ofTag_cases (h : IsCode tag code) :
    code = "" ∧ ofTag tag = .error (.invalidTag tag) ∨
    code ≠ "" ∧ '<' ∉ code.toList ∧ ofTag tag = .ok (.pos code) ∨
    (∃ k : KRCode, k.Written code ∧ k.features ≠ [] ∧ ofTag tag = .ok (.kr k)) ∨
    '<' ∈ code.toList ∧ (∀ k : KRCode, ¬k.Written code) ∧ ofTag tag = .error (.invalidTag tag) := by
  have hread := h.ofTag_eq
  by_cases hempty : code = ""
  · exact .inl ⟨hempty, by rw [hread, if_pos hempty]⟩
  by_cases hopen : '<' ∈ code.toList
  · rw [if_neg hempty, if_pos hopen] at hread
    cases hcode : KRCode.parse? code with
    | some k =>
      have hwritten := KRCode.parse?_eq_some_iff.1 hcode
      rw [hcode] at hread
      exact .inr (.inr (.inl ⟨k, hwritten, hwritten.features_ne_nil_iff.2 hopen, hread⟩))
    | none =>
      rw [hcode] at hread
      refine .inr (.inr (.inr ⟨hopen, fun k hwritten => ?_, hread⟩))
      rw [KRCode.parse?_eq_some_iff.2 hwritten] at hcode
      cases hcode
  · exact .inr (.inl ⟨hempty, hopen, by rw [hread, if_neg hempty, if_neg hopen]⟩)

/-- What reading makes of a tag, if parts of speech are to be without brackets as they are in KR codes: a code with
no bracket at all is a part of speech, a KR code with a feature is that KR code, and all else is refused. -/
def SortsStrictly (tag code : String) : Prop :=
  (∀ s, ofTag tag = .ok (.pos s) ↔ s = code ∧ code ≠ "" ∧ AngleFree code.toList) ∧
  (∀ k, ofTag tag = .ok (.kr k) ↔ k.Written code ∧ k.features ≠ []) ∧
  (∀ e, ofTag tag = .error e ↔
    e = .invalidTag tag ∧ ¬(code ≠ "" ∧ AngleFree code.toList) ∧ ¬∃ k : KRCode, k.Written code ∧ k.features ≠ [])

theorem IsCode.ofTag_eq_pos_iff (h : IsCode tag code) (s : String) :
    ofTag tag = .ok (.pos s) ↔ s = code ∧ code ≠ "" ∧ '<' ∉ code.toList := by
  rcases h.ofTag_cases with ⟨hempty, hread⟩ | ⟨hne, hopen, hread⟩ | ⟨k, hk, hfs, hread⟩ | ⟨hopen, -, hread⟩
  · simp [hread, hempty]
  · simp [hread, hne, hopen, eq_comm]
  · simp [hread, hk.features_ne_nil_iff.1 hfs]
  · simp [hread, hopen]

theorem IsCode.ofTag_eq_kr_iff (h : IsCode tag code) (k : KRCode) :
    ofTag tag = .ok (.kr k) ↔ k.Written code ∧ k.features ≠ [] := by
  constructor
  · intro hkr
    rcases h.ofTag_cases with ⟨-, hread⟩ | ⟨-, -, hread⟩ | ⟨k', hk, hfs, hread⟩ | ⟨-, -, hread⟩
    · rw [hread] at hkr; cases hkr
    · rw [hread] at hkr; cases hkr
    · rw [hread] at hkr; cases hkr
      exact ⟨hk, hfs⟩
    · rw [hread] at hkr; cases hkr
  · rintro ⟨hk, hfs⟩
    have hopen := hk.features_ne_nil_iff.1 hfs
    rcases h.ofTag_cases with ⟨hempty, -⟩ | ⟨-, hnone, -⟩ | ⟨k', hk', -, hread⟩ | ⟨-, hnone, -⟩
    · exact absurd hempty (ne_empty_of_mem hopen)
    · exact absurd hopen hnone
    · rw [hread, hk.unique hk']
    · exact absurd hk (hnone k)

theorem IsCode.ofTag_eq_error_iff (h : IsCode tag code) (e : Error) :
    ofTag tag = .error e ↔
      e = .invalidTag tag ∧ (code = "" ∨ '<' ∈ code.toList ∧ ∀ k : KRCode, ¬k.Written code) := by
  rcases h.ofTag_cases with ⟨hempty, hread⟩ | ⟨hne, hopen, hread⟩ | ⟨k, hk, hfs, hread⟩ | ⟨hopen, hnone, hread⟩
  · simp [hread, hempty, eq_comm]
  · simp [hread, hne, hopen]
  · have hne : code ≠ "" := ne_empty_of_mem (hk.features_ne_nil_iff.1 hfs)
    simp only [hread, reduceCtorEq, hne, false_or, false_iff, not_and]
    exact fun _ _ hnone => hnone k hk
  · simp [hread, hopen, hnone, eq_comm]

/-- The one thing that reading is not strict about is a closing bracket that nothing has opened. -/
theorem IsCode.sortsStrictly_iff (h : IsCode tag code) :
    SortsStrictly tag code ↔ ('>' ∈ code.toList → '<' ∈ code.toList) := by
  constructor
  · rintro ⟨hpos, -, -⟩ hclose
    by_contra hopen
    have hread : ofTag tag = .ok (.pos code) := (h.ofTag_eq_pos_iff code).2 ⟨rfl, ne_empty_of_mem hclose, hopen⟩
    exact ((hpos code).1 hread).2.2.2 hclose
  · intro hclose
    have hfree : AngleFree code.toList ↔ '<' ∉ code.toList :=
      ⟨fun hf => hf.1, fun hopen => ⟨hopen, fun hmem => hopen (hclose hmem)⟩⟩
    refine ⟨fun s => ?_, h.ofTag_eq_kr_iff, fun e => ?_⟩
    · rw [hfree]
      exact h.ofTag_eq_pos_iff s
    · rw [hfree, h.ofTag_eq_error_iff]
      refine and_congr_right fun _ => ?_
      constructor
      · rintro (hempty | ⟨hopen, hnone⟩)
        · exact ⟨fun hpos => hpos.1 hempty, fun ⟨k, hk, hfs⟩ =>
            ne_empty_of_mem (hk.features_ne_nil_iff.1 hfs) hempty⟩
        · exact ⟨fun hpos => hpos.2 hopen, fun ⟨k, hk, _⟩ => hnone k hk⟩
      · rintro ⟨hpos, hkr⟩
        by_cases hempty : code = ""
        · exact .inl hempty
        · have hopen : '<' ∈ code.toList := by
            by_contra hnone
            exact hpos ⟨hempty, hnone⟩
          exact .inr ⟨hopen, fun k hk => hkr ⟨k, hk, hk.features_ne_nil_iff.2 hopen⟩⟩

/-- A code that is not empty and has no opening bracket is read as a part of speech, a KR code with a feature as that
KR code, and a tag with any other code is refused and reported whole.  This is the strict order of things for all
tags but those whose code has a closing bracket and no opening one. -/
theorem ofTag_sorts (h : IsCode tag code) :
    (∀ s, ofTag tag = .ok (.pos s) ↔ s = code ∧ code ≠ "" ∧ '<' ∉ code.toList) ∧
    (∀ k, ofTag tag = .ok (.kr k) ↔ k.Written code ∧ k.features ≠ []) ∧
    (∀ e, ofTag tag = .error e ↔
      e = .invalidTag tag ∧ (code = "" ∨ '<' ∈ code.toList ∧ ∀ k : KRCode, ¬k.Written code)) ∧
    (SortsStrictly tag code ↔ ('>' ∈ code.toList → '<' ∈ code.toList)) :=
  ⟨h.ofTag_eq_pos_iff, h.ofTag_eq_kr_iff, h.ofTag_eq_error_iff, h.sortsStrictly_iff⟩

/-- A KR code behind a stem that has brackets and slashes of its own. -/
theorem ofTag_sorts_homes :
    IsCode "<b>/haz/NOUN<PLUR>" "NOUN<PLUR>" ∧
      ofTag "<b>/haz/NOUN<PLUR>" = .ok (.kr ⟨"NOUN", [⟨"PLUR", ""⟩]⟩) ∧
      SortsStrictly "<b>/haz/NOUN<PLUR>" "NOUN<PLUR>" := by
  have hcode : IsCode "<b>/haz/NOUN<PLUR>" "NOUN<PLUR>" := ⟨by decide, .inr ⟨"<b>/haz", by decide⟩⟩
  have hplural : Feature.Written ⟨"PLUR", ""⟩ ("<" ++ "PLUR" ++ ">") := .flag (by decide) (by decide)
  have hwritten : KRCode.Written ⟨"NOUN", [⟨"PLUR", ""⟩]⟩ "NOUN<PLUR>" :=
    ⟨by decide, by decide, _, .cons hplural .nil, by decide⟩
  obtain ⟨-, hkr, -, hstrict⟩ := ofTag_sorts hcode
  exact ⟨hcode, (hkr _).2 ⟨hwritten, by decide⟩, hstrict.2 (by decide)⟩

/-- The closing bracket was never opened, and still the code is taken for a part of speech. -/
theorem stray_bracket_train :
    IsCode "train/NOUN>" "NOUN>" ∧ ofTag "train/NOUN>" = .ok (.pos "NOUN>") ∧
      ¬AngleFree "NOUN>".toList ∧ ¬SortsStrictly "train/NOUN>" "NOUN>" := by
  have hcode : IsCode "train/NOUN>" "NOUN>" := ⟨by decide, .inr ⟨"train", by decide⟩⟩
  have hread : ofTag "train/NOUN>" = .ok (.pos "NOUN>") :=
    (hcode.ofTag_eq_pos_iff "NOUN>").2 ⟨rfl, by decide, by decide⟩
  have hbracket : ¬AngleFree "NOUN>".toList := by decide
  exact ⟨hcode, hread, hbracket, fun hstrict => hbracket ((hstrict.1 "NOUN>").1 hread).2.2⟩

/-! ## KR codes behind stems -/

theorem IsCode.stem (h : IsCode text code) (stem : String) : IsCode (stem ++ "/" ++ text) code := by
  refine ⟨h.1, .inr ?_⟩
  rcases h.2 with rfl | ⟨inner, rfl⟩
  · exact ⟨stem, rfl⟩
  · exact ⟨stem ++ "/" ++ inner, by simp only [String.append_assoc]⟩

theorem ofTag_stem_eq_ok_iff (stem text : String) (control : Control) :
    ofTag (stem ++ "/" ++ text) = .ok control ↔ ofTag text = .ok control := by
  obtain ⟨code, hcode⟩ := exists_isCode text
  rw [hcode.ofTag_eq, (hcode.stem stem).ofTag_eq]
  split
  · simp
  · split
    · cases KRCode.parse? code <;> simp
    · rfl

end Control

/-- No slash stands in the part of speech, in a key or in a value. -/
def KRCode.SlashFree (k : KRCode) : Prop :=
  '/' ∉ k.pos.toList ∧ ∀ f ∈ k.features, '/' ∉ f.key.toList ∧ '/' ∉ f.value.toList

theorem Feature.slash_mem_render_iff (f : Feature) :
    '/' ∈ f.render.toList ↔ '/' ∈ f.key.toList ∨ '/' ∈ f.value.toList := by
  obtain ⟨key, value⟩ := f
  by_cases hvalue : value = ""
  · subst hvalue
    rw [render_flag, toList_flag]
    simp
  · rw [render_valued key hvalue, toList_valued]
    simp

theorem KRCode.slashFree_iff (k : KRCode) : k.SlashFree ↔ '/' ∉ k.render.toList := by
  simp only [SlashFree, render, String.toList_append, String.toList_join, List.mem_append, not_or,
    List.mem_flatMap, List.mem_map, exists_exists_and_eq_and, Feature.slash_mem_render_iff, not_exists, not_and]

namespace Control

/-- A KR code with a feature that is written behind a stem is read back if no slash stands in it, and only then.
Whatever is written behind a stem, the stem changes nothing in what is read. -/
theorem ofTag_stem {s : String} {k : KRCode} (hread : KRCode.parse? s = some k) (hfeatures : k.features ≠ [])
    (stem : String) :
    (ofTag (stem ++ "/" ++ k.render) = .ok (.kr k) ↔ k.SlashFree) ∧
    ∀ text control, ofTag (stem ++ "/" ++ text) = .ok control ↔ ofTag text = .ok control := by
  refine ⟨?_, ofTag_stem_eq_ok_iff stem⟩
  have hwritten := (KRCode.parse?_eq_some_iff.1 hread).wellFormed.written_render
  rw [ofTag_stem_eq_ok_iff, k.slashFree_iff]
  constructor
  · intro hkr
    obtain ⟨code, hcode⟩ := exists_isCode k.render
    obtain ⟨hself, -⟩ := (hcode.ofTag_eq_kr_iff k).1 hkr
    rcases hcode.2 with heq | ⟨inner, heq⟩
    · rw [heq]
      exact hcode.1
    · -- the part behind the last slash is too short to spell the code
      have hlen := hself.length_render_le
      rw [heq, toList_stem, List.length_append, List.length_cons] at hlen
      omega
  · intro hslash
    have hcode : IsCode k.render k.render := ⟨hslash, .inl rfl⟩
    exact (hcode.ofTag_eq_kr_iff k).2 ⟨hwritten, hfeatures⟩

/-- The stem has a slash and brackets, and the plural was read in its long form. -/
theorem ofTag_stem_homes :
    KRCode.parse? "NOUN<PLUR<>>" = some ⟨"NOUN", [⟨"PLUR", ""⟩]⟩ ∧
      ofTag ("<b>/haz" ++ "/" ++ KRCode.render ⟨"NOUN", [⟨"PLUR", ""⟩]⟩) =
        .ok (.kr ⟨"NOUN", [⟨"PLUR", ""⟩]⟩) := by
  have hplural : Feature.Written ⟨"PLUR", ""⟩ ("<" ++ "PLUR" ++ "<" ++ "" ++ ">>") :=
    .valued (by decide) (by decide) (by decide)
  have hread : KRCode.parse? "NOUN<PLUR<>>" = some ⟨"NOUN", [⟨"PLUR", ""⟩]⟩ :=
    KRCode.parse?_eq_some_iff.2 ⟨by decide, by decide, _, .cons hplural .nil, by decide⟩
  have hfree : KRCode.SlashFree ⟨"NOUN", [⟨"PLUR", ""⟩]⟩ := (KRCode.slashFree_iff _).2 (by decide)
  exact ⟨hread, (ofTag_stem hread (by decide) "<b>/haz").1.2 hfree⟩

/-- The plural of an adjective that is used as a noun, behind the stem `green`, is the same tag as the plural of a
noun behind the stem `green/ADJ`, and it is read as that. -/
theorem shared_tag_green :
    KRCode.parse? "ADJ/NOUN<PLUR>" = some ⟨"ADJ/NOUN", [⟨"PLUR", ""⟩]⟩ ∧
    KRCode.parse? "NOUN<PLUR>" = some ⟨"NOUN", [⟨"PLUR", ""⟩]⟩ ∧
    "green" ++ "/" ++ KRCode.render ⟨"ADJ/NOUN", [⟨"PLUR", ""⟩]⟩ =
      "green/ADJ" ++ "/" ++ KRCode.render ⟨"NOUN", [⟨"PLUR", ""⟩]⟩ ∧
    ofTag ("green" ++ "/" ++ KRCode.render ⟨"ADJ/NOUN", [⟨"PLUR", ""⟩]⟩) = .ok (.kr ⟨"NOUN", [⟨"PLUR", ""⟩]⟩) ∧
    ofTag ("green" ++ "/" ++ KRCode.render ⟨"ADJ/NOUN", [⟨"PLUR", ""⟩]⟩) ≠
      .ok (.kr ⟨"ADJ/NOUN", [⟨"PLUR", ""⟩]⟩) := by
  have hplural : Feature.Written ⟨"PLUR", ""⟩ ("<" ++ "PLUR" ++ ">") := .flag (by decide) (by decide)
  have hmixed : KRCode.Written ⟨"ADJ/NOUN", [⟨"PLUR", ""⟩]⟩ "ADJ/NOUN<PLUR>" :=
    ⟨by decide, by decide, _, .cons hplural .nil, by decide⟩
  have hnoun : KRCode.Written ⟨"NOUN", [⟨"PLUR", ""⟩]⟩ "NOUN<PLUR>" :=
    ⟨by decide, by decide, _, .cons hplural .nil, by decide⟩
  have hcode : IsCode ("green" ++ "/" ++ KRCode.render ⟨"ADJ/NOUN", [⟨"PLUR", ""⟩]⟩) "NOUN<PLUR>" :=
    ⟨by decide, .inr ⟨"green/ADJ", by decide⟩⟩
  have hread := (hcode.ofTag_eq_kr_iff _).2 ⟨hnoun, by decide⟩
  refine ⟨KRCode.parse?_eq_some_iff.2 hmixed, KRCode.parse?_eq_some_iff.2 hnoun, by decide, hread, ?_⟩
  rw [hread]
  exact fun heq => absurd (Except.ok.inj heq) (by decide)

end Control

end MeaningGraph
