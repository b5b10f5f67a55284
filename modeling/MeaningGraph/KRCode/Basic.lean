/-
KR codes: a part of speech followed by features.

    NOUN<PLUR><CAS<ACC>>      part of speech NOUN, flag PLUR, feature CAS with the value ACC

A flag is a feature whose value is empty.  Features keep the order in which they were written; a code
may name a feature twice, and reading then finds the first.
-/
namespace MeaningGraph

/-- A named feature; a flag has the empty value. -/
structure Feature where
  key : String
  value : String
deriving DecidableEq, Repr

/-- A part of speech and its features, in the order they are written. -/
structure KRCode where
  pos : String
  features : List Feature := []
deriving DecidableEq, Repr

namespace Feature

/-- A flag is written `<KEY>`, any other feature `<KEY<VALUE>>`. -/
def render (f : Feature) : String :=
  if f.value.isEmpty then "<" ++ f.key ++ ">" else "<" ++ f.key ++ "<" ++ f.value ++ ">>"

end Feature

namespace KRCode

def render (k : KRCode) : String :=
  k.pos ++ String.join (k.features.map Feature.render)

/-- The value of the first feature with that key. -/
def get? (k : KRCode) (key : String) : Option String :=
  (k.features.find? (·.key = key)).map (·.value)

/-- Sets the first feature of that key within a list, or adds one at the end. -/
def setFeature (key value : String) : List Feature → List Feature
  | [] => [⟨key, value⟩]
  | f :: fs => if f.key = key then ⟨key, value⟩ :: fs else f :: setFeature key value fs

/-- Sets the first feature of that key, or adds one at the end. -/
def set (k : KRCode) (key value : String) : KRCode :=
  { k with features := setFeature key value k.features }

end KRCode

end MeaningGraph
