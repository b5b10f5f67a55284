/-
Reading KR codes.

    code    = text feature*            text without angle brackets, not empty
    feature = '<' text '>'             a flag
            | '<' text '<' text? '>' '>'

Nothing else may stand in a code, so reading is deterministic: the next bracket decides.
-/
import MeaningGraph.KRCode.Basic

namespace MeaningGraph

/-- The character may stand inside a part of speech, a key or a value. -/
def isPlain (c : Char) : Bool :=
  c != '<' && c != '>'

namespace Feature

/-- Reads one feature, at its opening bracket. -/
def parse? : List Char → Option (Feature × List Char)
  | '<' :: cs =>
    let key := cs.takeWhile isPlain
    if key.isEmpty then none
    else match cs.dropWhile isPlain with
      | '>' :: rest => some (⟨String.ofList key, ""⟩, rest)
      | '<' :: cs =>
        match cs.dropWhile isPlain with
        | '>' :: '>' :: rest => some (⟨String.ofList key, String.ofList (cs.takeWhile isPlain)⟩, rest)
        | _ => none
      | _ => none
  | _ => none

theorem length_dropWhile_le (p : Char → Bool) (cs : List Char) :
    (cs.dropWhile p).length ≤ cs.length :=
  (List.dropWhile_sublist p).length_le

theorem parse?_length {cs rest : List Char} {f : Feature} (h : parse? cs = some (f, rest)) :
    rest.length < cs.length := by
  unfold parse? at h
  split at h
  · rename_i cs
    have h₁ := length_dropWhile_le isPlain cs
    simp only at h
    split at h
    · contradiction
    · split at h
      · rename_i r₁ heq
        simp only [Option.some.injEq, Prod.mk.injEq] at h
        rw [heq, List.length_cons] at h₁
        rw [← h.2, List.length_cons]
        omega
      · rename_i cs₂ heq
        have h₂ := length_dropWhile_le isPlain cs₂
        rw [heq, List.length_cons] at h₁
        split at h
        · rename_i r₂ heq₂
          simp only [Option.some.injEq, Prod.mk.injEq] at h
          rw [heq₂, List.length_cons, List.length_cons] at h₂
          rw [← h.2, List.length_cons]
          omega
        · contradiction
      · contradiction
  · contradiction

/-- Reads features to the end of the text. -/
def parseAll? (cs : List Char) : Option (List Feature) :=
  match cs with
  | [] => some []
  | c :: cs =>
    match _read : parse? (c :: cs) with
    | none => none
    | some (f, rest) => (parseAll? rest).map (f :: ·)
termination_by cs.length
decreasing_by exact parse?_length _read

end Feature

namespace KRCode

def parse? (text : String) : Option KRCode :=
  let pos := text.toList.takeWhile isPlain
  if pos.isEmpty then none
  else (Feature.parseAll? (text.toList.dropWhile isPlain)).map fun features =>
    ⟨String.ofList pos, features⟩

end KRCode

end MeaningGraph
