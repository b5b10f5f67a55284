/-
The names of the general categories, short and long.
-/
import MeaningGraph.Text.Category.Letter
import MeaningGraph.Text.Category.Mark
import MeaningGraph.Text.Category.Number
import MeaningGraph.Text.Category.Punctuation
import MeaningGraph.Text.Category.Symbol
import MeaningGraph.Text.Category.Other

namespace MeaningGraph.Text.Category

/-- The general categories and their groups by name, in small letters and without word breaks. -/
def byName : List (String × CodeRanges) :=
  [("lu", uppercaseLetter), ("uppercaseletter", uppercaseLetter), ("ll", lowercaseLetter),
    ("lowercaseletter", lowercaseLetter), ("lt", titlecaseLetter),
    ("titlecaseletter", titlecaseLetter), ("lc", casedLetter), ("casedletter", casedLetter),
    ("lm", modifierLetter), ("modifierletter", modifierLetter), ("lo", otherLetter),
    ("otherletter", otherLetter), ("l", letter), ("letter", letter), ("mn", nonspacingMark),
    ("nonspacingmark", nonspacingMark), ("mc", spacingMark), ("spacingmark", spacingMark),
    ("me", enclosingMark), ("enclosingmark", enclosingMark), ("m", mark), ("mark", mark),
    ("combiningmark", mark), ("nd", decimalNumber), ("decimalnumber", decimalNumber),
    ("digit", decimalNumber), ("nl", letterNumber), ("letternumber", letterNumber),
    ("no", otherNumber), ("othernumber", otherNumber), ("n", number), ("number", number),
    ("pc", connectorPunctuation), ("connectorpunctuation", connectorPunctuation),
    ("pd", dashPunctuation), ("dashpunctuation", dashPunctuation), ("ps", openPunctuation),
    ("openpunctuation", openPunctuation), ("pe", closePunctuation),
    ("closepunctuation", closePunctuation), ("pi", initialPunctuation),
    ("initialpunctuation", initialPunctuation), ("pf", finalPunctuation),
    ("finalpunctuation", finalPunctuation), ("po", otherPunctuation),
    ("otherpunctuation", otherPunctuation), ("p", punctuation), ("punctuation", punctuation),
    ("punct", punctuation), ("sm", mathSymbol), ("mathsymbol", mathSymbol), ("sc", currencySymbol),
    ("currencysymbol", currencySymbol), ("sk", modifierSymbol), ("modifiersymbol", modifierSymbol),
    ("so", otherSymbol), ("othersymbol", otherSymbol), ("s", symbol), ("symbol", symbol),
    ("zs", spaceSeparator), ("spaceseparator", spaceSeparator), ("zl", lineSeparator),
    ("lineseparator", lineSeparator), ("zp", paragraphSeparator),
    ("paragraphseparator", paragraphSeparator), ("z", separator), ("separator", separator),
    ("cc", control), ("control", control), ("cntrl", control), ("cf", format), ("format", format),
    ("co", privateUse), ("privateuse", privateUse), ("cn", unassigned), ("unassigned", unassigned),
    ("c", other), ("other", other)]

end MeaningGraph.Text.Category
