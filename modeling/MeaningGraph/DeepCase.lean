/-
Deep cases: the names by which a verb's definition asks for arguments, each with the matcher that
recognises an argument in that case.
-/
import MeaningGraph.Matcher

namespace MeaningGraph

/-- The known deep cases. -/
abbrev DeepCases := Table Matcher

namespace DeepCases

/-- The pattern of a KR code whose case is one of those given. -/
def caseFeature (cases : List String) : Pattern :=
  .seq [.text "<CAS<", .alt (cases.map .text), .text ">>"]

/-- The five default cases: source, goal and place by the local cases, agent by the nominative, patient
by the accusative. -/
def default : DeepCases :=
  .ofList
    [("FROM", .pos (caseFeature ["ABL", "ELA", "DEL"])),
      ("TO", .pos (caseFeature ["ALL", "ILL", "SBL", "TER"])),
      ("AT", .pos (caseFeature ["ADE", "INE", "SUE"])),
      ("AGT", .pos (caseFeature ["NOM"])),
      ("PAT", .pos (caseFeature ["ACC"]))]

end DeepCases

end MeaningGraph
