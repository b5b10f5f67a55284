/-
The grammar of noun phrases.

    ART  NOUN  ->  NOUN[0: ART]          DET counts as ART
    ADJ  NOUN  ->  NOUN[0: ADJ]
    NUM  NOUN  ->  NOUN[0: NUM]

The patterns fit plain tags (`NOUN`) and KR codes (`NOUN<CAS<ACC>>`).
-/
import MeaningGraph.Rule.Append

namespace MeaningGraph.NounPhrase

/-- One of the tags at the start, and then the end or a feature. -/
def tagged (tag : Pattern) : Matcher :=
  .pos (.seq [.look .textStart, tag, .alt [.text "<", .look .textEnd]])

def noun : Matcher :=
  tagged (.text "NOUN")

/-- The rule for an article or determiner. -/
def detNoun : AppendRule where
  name := "det_noun"
  modifier := tagged (.alt [.text "ART", .text "DET"])
  head := noun

/-- The rule for an adjective. -/
def adjNoun : AppendRule where
  name := "adj_noun"
  modifier := tagged (.text "ADJ")
  head := noun

/-- The rule for a numeral. -/
def numNoun : AppendRule where
  name := "num_noun"
  modifier := tagged (.text "NUM")
  head := noun

def rules : List AppendRule :=
  [detNoun, adjNoun, numNoun]

end MeaningGraph.NounPhrase
