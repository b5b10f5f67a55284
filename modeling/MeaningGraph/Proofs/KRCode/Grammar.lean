/-
# What a KR code is

A code is a part of speech with features behind it.  A feature is spelled in one of two ways, and a flag,
which is a feature with the empty value, in both:

| text | feature |
| :-- | :-- |
| `<KEY>` | the flag `KEY` |
| `<KEY<VALUE>>` | `KEY` with that value |
| `<KEY<>>` | the flag `KEY` |

No bracket stands in a part of speech, a key or a value, and the first two are not empty.  So the next bracket
always decides how to go on, and a text spells one code at most.  Reading answers with that code, and refuses
the texts that spell none (`KRCode.parse?_eq_some_iff`).

Writing chooses the first form for flags.  It undoes reading but for the flags of the third form, and those it
makes shorter (`KRCode.Written.toList_render`).
-/
import Mathlib.Data.List.Forall2
import MeaningGraph.KRCode.Parser

namespace MeaningGraph

/-- No angle bracket stands in the text. -/
def AngleFree (cs : List Char) : Prop :=
  '<' ∉ cs ∧ '>' ∉ cs

instance (cs : List Char) : Decidable (AngleFree cs) :=
  inferInstanceAs (Decidable (_ ∧ _))

/-- The text spells the feature. -/
inductive Feature.Written : Feature → String → Prop
  | flag {key : String} : key ≠ "" → AngleFree key.toList → Written ⟨key, ""⟩ ("<" ++ key ++ ">")
  | valued {key value : String} : key ≠ "" → AngleFree key.toList → AngleFree value.toList →
      Written ⟨key, value⟩ ("<" ++ key ++ "<" ++ value ++ ">>")

/-- The text spells the code: its part of speech, and the features in their order. -/
def KRCode.Written (k : KRCode) (text : String) : Prop :=
  k.pos ≠ "" ∧ AngleFree k.pos.toList ∧
    ∃ pieces, List.Forall₂ Feature.Written k.features pieces ∧ text = k.pos ++ String.join pieces

/-- The key is not empty, and no bracket stands in the key or in the value. -/
structure Feature.WellFormed (f : Feature) : Prop where
  key_ne : f.key ≠ ""
  key_free : AngleFree f.key.toList
  value_free : AngleFree f.value.toList

/-- The part of speech is not empty, no bracket stands in it, and the features are well formed. -/
structure KRCode.WellFormed (k : KRCode) : Prop where
  pos_ne : k.pos ≠ ""
  pos_free : AngleFree k.pos.toList
  features : ∀ f ∈ k.features, f.WellFormed

variable {cs rest text : List Char} {f : Feature} {fs : List Feature} {k : KRCode} {s : String}

/-! ## Text without brackets -/

theorem angleFree_iff : AngleFree cs ↔ ∀ c ∈ cs, isPlain c = true := by
  constructor
  · rintro ⟨hopen, hclose⟩ c hc
    have hlt : c ≠ '<' := fun h => hopen (h ▸ hc)
    have hgt : c ≠ '>' := fun h => hclose (h ▸ hc)
    simp [isPlain, hlt, hgt]
  · intro h
    exact ⟨fun hmem => absurd (h _ hmem) (by decide), fun hmem => absurd (h _ hmem) (by decide)⟩

theorem AngleFree.nil : AngleFree [] :=
  ⟨List.not_mem_nil, List.not_mem_nil⟩

theorem angleFree_takeWhile (cs : List Char) : AngleFree (cs.takeWhile isPlain) :=
  angleFree_iff.2 (List.all_eq_true.1 List.all_takeWhile)

theorem AngleFree.takeWhile_append (h : AngleFree text) {b : Char} (hb : isPlain b = false) :
    (text ++ b :: rest).takeWhile isPlain = text := by
  rw [List.takeWhile_append_of_pos (angleFree_iff.1 h), List.takeWhile_cons_of_neg (by simp [hb]),
    List.append_nil]

theorem AngleFree.dropWhile_append (h : AngleFree text) {b : Char} (hb : isPlain b = false) :
    (text ++ b :: rest).dropWhile isPlain = b :: rest := by
  rw [List.dropWhile_append_of_pos (angleFree_iff.1 h), List.dropWhile_cons_of_neg (by simp [hb])]

theorem toList_ne_nil (h : s ≠ "") : s.toList ≠ [] :=
  fun hs => h (String.toList_eq_nil_iff.1 hs)

theorem ofList_ne_empty (h : cs ≠ []) : String.ofList cs ≠ "" := by
  intro hs
  exact h (by rw [← String.toList_ofList (l := cs), hs]; rfl)

theorem toList_join_cons (s : String) (pieces : List String) :
    (String.join (s :: pieces)).toList = s.toList ++ (String.join pieces).toList := by
  simp

/-! ## One feature -/

namespace Feature

theorem toList_flag (key : String) : ("<" ++ key ++ ">").toList = '<' :: (key.toList ++ ['>']) := by
  simp [String.toList_append]

theorem toList_valued (key value : String) :
    ("<" ++ key ++ "<" ++ value ++ ">>").toList =
      '<' :: (key.toList ++ '<' :: (value.toList ++ ['>', '>'])) := by
  simp [String.toList_append]

theorem exists_written_flag {key : List Char} (hne : key ≠ []) (hkey : AngleFree key) :
    ∃ s, Written ⟨String.ofList key, ""⟩ s ∧ s.toList = '<' :: (key ++ ['>']) := by
  refine ⟨_, .flag (ofList_ne_empty hne) (by rwa [String.toList_ofList]), ?_⟩
  rw [toList_flag, String.toList_ofList]

theorem exists_written_valued {key value : List Char} (hne : key ≠ []) (hkey : AngleFree key)
    (hvalue : AngleFree value) :
    ∃ s, Written ⟨String.ofList key, String.ofList value⟩ s ∧
      s.toList = '<' :: (key ++ '<' :: (value ++ ['>', '>'])) := by
  refine ⟨_, .valued (ofList_ne_empty hne) (by rwa [String.toList_ofList])
    (by rwa [String.toList_ofList]), ?_⟩
  rw [toList_valued, String.toList_ofList, String.toList_ofList]

theorem Written.parse?_append (h : Written f s) (rest : List Char) :
    parse? (s.toList ++ rest) = some (f, rest) := by
  cases h with
  | @flag key hne hkey =>
    have hkeep : key.toList.isEmpty = false := by simp [toList_ne_nil hne]
    rw [toList_flag, List.cons_append, List.append_assoc, List.singleton_append, parse?]
    simp only [hkey.takeWhile_append (by decide : isPlain '>' = false),
      hkey.dropWhile_append (by decide : isPlain '>' = false), hkeep, String.ofList_toList]
    rfl
  | @valued key value hne hkey hvalue =>
    have hkeep : key.toList.isEmpty = false := by simp [toList_ne_nil hne]
    rw [toList_valued, List.cons_append, List.append_assoc, List.cons_append, List.append_assoc, parse?]
    simp only [List.cons_append, List.nil_append, hkey.takeWhile_append (by decide : isPlain '<' = false),
      hkey.dropWhile_append (by decide : isPlain '<' = false),
      hvalue.takeWhile_append (by decide : isPlain '>' = false),
      hvalue.dropWhile_append (by decide : isPlain '>' = false), hkeep, String.ofList_toList]
    rfl

theorem exists_written_of_parse? (h : parse? cs = some (f, rest)) :
    ∃ s, Written f s ∧ cs = s.toList ++ rest := by
  unfold parse? at h
  split at h
  next cs =>
    have hcs := List.takeWhile_append_dropWhile (p := isPlain) (l := cs)
    have hkey := angleFree_takeWhile cs
    simp only at h
    split at h
    · contradiction
    next hempty =>
      have hne : cs.takeWhile isPlain ≠ [] := by simpa using hempty
      split at h
      next r hr =>
        simp only [Option.some.injEq, Prod.mk.injEq] at h
        obtain ⟨rfl, rfl⟩ := h
        obtain ⟨s, hs, htext⟩ := exists_written_flag hne hkey
        refine ⟨s, hs, ?_⟩
        rw [hr] at hcs
        simp [htext, hcs]
      next ds hds =>
        have hvalue := List.takeWhile_append_dropWhile (p := isPlain) (l := ds)
        split at h
        next r hr =>
          simp only [Option.some.injEq, Prod.mk.injEq] at h
          obtain ⟨rfl, rfl⟩ := h
          obtain ⟨s, hs, htext⟩ := exists_written_valued hne hkey (angleFree_takeWhile ds)
          refine ⟨s, hs, ?_⟩
          rw [hr] at hvalue
          rw [hds] at hcs
          simp [htext, hcs, hvalue]
        · contradiction
      · contradiction
  · contradiction

/-- At the beginning of a text at most one feature is spelled, in one way. -/
theorem Written.unique {f' : Feature} {s' : String} {rest' : List Char} (h : Written f s)
    (h' : Written f' s') (heq : s.toList ++ rest = s'.toList ++ rest') : f = f' ∧ s = s' ∧ rest = rest' := by
  have hread := h.parse?_append rest
  rw [heq, h'.parse?_append, Option.some.injEq, Prod.mk.injEq] at hread
  obtain ⟨rfl, rfl⟩ := hread
  exact ⟨rfl, String.toList_inj.1 (List.append_cancel_right heq), rfl⟩

theorem Written.exists_cons (h : Written f s) : ∃ cs, s.toList = '<' :: cs := by
  cases h with
  | flag => exact ⟨_, toList_flag _⟩
  | valued => exact ⟨_, toList_valued _ _⟩

/-! ## Features in a row -/

theorem parseAll?_of_parse? (h : parse? cs = some (f, rest)) :
    parseAll? cs = (parseAll? rest).map (f :: ·) := by
  cases cs with
  | nil => cases h
  | cons c cs =>
    rw [parseAll?]
    split
    next hnone => rw [h] at hnone; cases hnone
    next f' rest' hsome =>
      rw [h, Option.some.injEq, Prod.mk.injEq] at hsome
      obtain ⟨rfl, rfl⟩ := hsome
      rfl

/-- The induction is on the features read, and each of them is spelled by what its reading consumed. -/
theorem parseAll?_eq_some_iff :
    parseAll? cs = some fs ↔ ∃ pieces, List.Forall₂ Written fs pieces ∧ cs = (String.join pieces).toList := by
  constructor
  · intro h
    induction fs generalizing cs with
    | nil =>
      cases cs with
      | nil => exact ⟨[], .nil, by simp⟩
      | cons c cs =>
        rw [parseAll?] at h
        split at h
        · cases h
        · simp at h
    | cons f fs ih =>
      cases cs with
      | nil => simp [parseAll?] at h
      | cons c cs =>
        cases hread : parse? (c :: cs) with
        | none =>
          rw [parseAll?] at h
          split at h
          · cases h
          next hsome => rw [hread] at hsome; cases hsome
        | some answer =>
          obtain ⟨f', rest⟩ := answer
          rw [parseAll?_of_parse? hread, Option.map_eq_some_iff] at h
          obtain ⟨fs', hfs', heq⟩ := h
          obtain ⟨rfl, rfl⟩ := List.cons.inj heq
          obtain ⟨s, hs, htext⟩ := exists_written_of_parse? hread
          obtain ⟨pieces, hpieces, rfl⟩ := ih hfs'
          exact ⟨s :: pieces, .cons hs hpieces, by rw [htext, toList_join_cons]⟩
  · rintro ⟨pieces, hpieces, rfl⟩
    induction hpieces with
    | nil => simp [parseAll?]
    | @cons f s fs pieces hs _ ih =>
      rw [toList_join_cons, parseAll?_of_parse? (hs.parse?_append _), ih]
      rfl

/-! ## Writing a feature -/

theorem Written.wellFormed (h : Written f s) : f.WellFormed := by
  cases h with
  | flag hne hkey => exact ⟨hne, hkey, .nil⟩
  | valued hne hkey hvalue => exact ⟨hne, hkey, hvalue⟩

theorem render_flag (key : String) : render ⟨key, ""⟩ = "<" ++ key ++ ">" :=
  rfl

theorem render_valued (key : String) {value : String} (h : value ≠ "") :
    render ⟨key, value⟩ = "<" ++ key ++ "<" ++ value ++ ">>" := by
  rw [render, if_neg (by simpa using h)]

theorem WellFormed.written_render (h : f.WellFormed) : Written f f.render := by
  obtain ⟨key, value⟩ := f
  by_cases hvalue : value = ""
  · subst hvalue
    exact .flag h.key_ne h.key_free
  · rw [render_valued key hvalue]
    exact .valued h.key_ne h.key_free h.value_free

end Feature

/-! ## Codes -/

namespace KRCode

/-- Reading answers with the code that the text spells, and with none if it spells none. -/
theorem parse?_eq_some_iff : parse? s = some k ↔ k.Written s := by
  have hsplit := List.takeWhile_append_dropWhile (p := isPlain) (l := s.toList)
  constructor
  · intro h
    rw [parse?] at h
    split at h
    · contradiction
    next hne =>
      obtain ⟨fs, hfs, rfl⟩ := Option.map_eq_some_iff.1 h
      obtain ⟨pieces, hpieces, hrest⟩ := Feature.parseAll?_eq_some_iff.1 hfs
      refine ⟨ofList_ne_empty (by simpa using hne), ?_, pieces, hpieces, ?_⟩
      · show AngleFree (String.ofList (s.toList.takeWhile isPlain)).toList
        rw [String.toList_ofList]
        exact angleFree_takeWhile s.toList
      · refine String.toList_inj.1 ?_
        rw [String.toList_append, ← hrest, String.toList_ofList, hsplit]
  · obtain ⟨pos, fs⟩ := k
    rintro ⟨hne, hfree, pieces, hpieces, rfl⟩
    have hread : Feature.parseAll? (String.join pieces).toList = some fs :=
      Feature.parseAll?_eq_some_iff.2 ⟨pieces, hpieces, rfl⟩
    have htake : (pos ++ String.join pieces).toList.takeWhile isPlain = pos.toList ∧
        (pos ++ String.join pieces).toList.dropWhile isPlain = (String.join pieces).toList := by
      rw [String.toList_append, List.takeWhile_append_of_pos (angleFree_iff.1 hfree),
        List.dropWhile_append_of_pos (angleFree_iff.1 hfree)]
      -- what follows the part of speech begins with a bracket, if there is any
      cases hpieces with
      | nil => simp
      | @cons f piece fs pieces hpiece _ =>
        obtain ⟨cs, hcs⟩ := hpiece.exists_cons
        rw [toList_join_cons, hcs, List.cons_append, List.takeWhile_cons_of_neg (by decide),
          List.dropWhile_cons_of_neg (by decide)]
        exact ⟨List.append_nil _, rfl⟩
    have hkeep : pos.toList.isEmpty = false := by simp [toList_ne_nil hne]
    rw [parse?]
    simp only [htake.1, htake.2, hkeep, hread, String.ofList_toList]
    rfl

theorem Written.unique {k' : KRCode} (h : k.Written s) (h' : k'.Written s) : k = k' :=
  Option.some.inj ((parse?_eq_some_iff.2 h).symm.trans (parse?_eq_some_iff.2 h'))

theorem Written.wellFormed (h : k.Written s) : k.WellFormed := by
  obtain ⟨hne, hfree, pieces, hpieces, -⟩ := h
  refine ⟨hne, hfree, fun f hf => ?_⟩
  obtain ⟨i, hi, rfl⟩ := List.getElem_of_mem hf
  exact (hpieces.get hi (hpieces.length_eq ▸ hi)).wellFormed

theorem Written.features_ne_nil_iff (h : k.Written s) : k.features ≠ [] ↔ '<' ∈ s.toList := by
  obtain ⟨pos, fs⟩ := k
  obtain ⟨-, hfree, pieces, hpieces, rfl⟩ := h
  rw [String.toList_append, List.mem_append]
  cases hpieces with
  | nil => simp [hfree.1]
  | cons hpiece _ =>
    obtain ⟨cs, hcs⟩ := hpiece.exists_cons
    rw [toList_join_cons, hcs]
    simp

theorem WellFormed.written_render (h : k.WellFormed) : k.Written k.render := by
  refine ⟨h.pos_ne, h.pos_free, k.features.map Feature.render, ?_, rfl⟩
  rw [List.forall₂_map_right_iff, List.forall₂_same]
  exact fun f hf => (h.features f hf).written_render

/-! ## The short form -/

/-- The text with each `<KEY<>>` in it made `<KEY>`.  In a code an opening bracket has a closing one right behind it
where a value is empty, and nowhere else. -/
def shortenFlags : List Char → List Char
  | '<' :: '>' :: '>' :: cs => '>' :: shortenFlags cs
  | c :: cs => c :: shortenFlags cs
  | [] => []

theorem shortenFlags_cons {c : Char} (hc : c ≠ '<') (cs : List Char) :
    shortenFlags (c :: cs) = c :: shortenFlags cs := by
  rw [shortenFlags]
  intro _ h
  exact absurd h hc

theorem shortenFlags_open {c : Char} (hc : c ≠ '>') (cs : List Char) :
    shortenFlags ('<' :: c :: cs) = '<' :: shortenFlags (c :: cs) := by
  rw [shortenFlags]
  rintro _ - h
  exact absurd (List.cons.inj h).1 hc

theorem shortenFlags_append (h : AngleFree text) (rest : List Char) :
    shortenFlags (text ++ rest) = text ++ shortenFlags rest := by
  induction text with
  | nil => rfl
  | cons c text ih =>
    have hc : c ≠ '<' := fun heq => h.1 (heq ▸ List.mem_cons_self)
    have htext : AngleFree text :=
      ⟨fun hmem => h.1 (List.mem_cons_of_mem _ hmem), fun hmem => h.2 (List.mem_cons_of_mem _ hmem)⟩
    rw [List.cons_append, shortenFlags_cons hc, ih htext, List.cons_append]

theorem shortenFlags_open_append (h : AngleFree text) (hne : text ≠ []) (rest : List Char) :
    shortenFlags ('<' :: (text ++ rest)) = '<' :: (text ++ shortenFlags rest) := by
  cases text with
  | nil => exact absurd rfl hne
  | cons c text =>
    have hc : c ≠ '>' := fun heq => h.2 (heq ▸ List.mem_cons_self)
    rw [List.cons_append, shortenFlags_open hc, ← List.cons_append, shortenFlags_append h]

theorem shortenFlags_written (h : Feature.Written f s) (rest : List Char) :
    shortenFlags (s.toList ++ rest) = f.render.toList ++ shortenFlags rest := by
  cases h with
  | @flag key hne hkey =>
    rw [Feature.render_flag, Feature.toList_flag, List.cons_append, List.append_assoc, List.singleton_append,
      shortenFlags_open_append hkey (toList_ne_nil hne), shortenFlags_cons (by decide)]
    simp
  | @valued key value hne hkey hvalue =>
    rw [Feature.toList_valued, List.cons_append, List.append_assoc, List.cons_append, List.append_assoc,
      shortenFlags_open_append hkey (toList_ne_nil hne)]
    by_cases hempty : value = ""
    · subst hempty
      rw [Feature.render_flag, Feature.toList_flag]
      simp [shortenFlags]
    · rw [Feature.render_valued key hempty, Feature.toList_valued,
        shortenFlags_open_append hvalue (toList_ne_nil hempty)]
      simp [shortenFlags]

theorem shortenFlags_join {pieces : List String} (h : List.Forall₂ Feature.Written fs pieces) :
    shortenFlags (String.join pieces).toList = (String.join (fs.map Feature.render)).toList := by
  induction h with
  | nil => rfl
  | cons hpiece _ ih =>
    rw [toList_join_cons, shortenFlags_written hpiece, ih, List.map_cons, toList_join_cons]

theorem length_shortenFlags_le (cs : List Char) : (shortenFlags cs).length ≤ cs.length := by
  induction cs using shortenFlags.induct with
  | case1 cs ih =>
    rw [shortenFlags]
    simp only [List.length_cons]
    omega
  | case2 c cs hne ih =>
    rw [shortenFlags]
    · simpa using ih
    · exact hne
  | case3 => exact Nat.le_refl _

/-- A code is written as the short form of any text that spells it. -/
theorem Written.toList_render (h : k.Written s) : k.render.toList = shortenFlags s.toList := by
  obtain ⟨-, hfree, pieces, hpieces, rfl⟩ := h
  rw [render, String.toList_append, String.toList_append, shortenFlags_append hfree,
    shortenFlags_join hpieces]

theorem Written.length_render_le (h : k.Written s) : k.render.toList.length ≤ s.toList.length := by
  rw [h.toList_render]
  exact length_shortenFlags_le s.toList

end KRCode

end MeaningGraph
