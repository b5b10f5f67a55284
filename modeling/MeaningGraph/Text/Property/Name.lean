/-
The names of the properties that a character has or has not, short and long.
-/
import MeaningGraph.Text.Blank
import MeaningGraph.Text.Property.Alphabet
import MeaningGraph.Text.Property.CaseChange
import MeaningGraph.Text.Property.Identifier
import MeaningGraph.Text.Property.Emoji
import MeaningGraph.Text.Property.Grapheme
import MeaningGraph.Text.Property.Sign

namespace MeaningGraph.Text.Property

/-- The properties by name, in small letters and without word breaks. -/
def byName : List (String × CodeRanges) :=
  [("alphabetic", alphabetic), ("alpha", alphabetic), ("asciihexdigit", asciiHexDigit),
    ("ahex", asciiHexDigit), ("bidicontrol", bidiControl), ("bidic", bidiControl),
    ("bidimirrored", bidiMirrored), ("bidim", bidiMirrored), ("caseignorable", caseIgnorable),
    ("ci", caseIgnorable), ("cased", cased), ("changeswhencasefolded", changesWhenCasefolded),
    ("cwcf", changesWhenCasefolded), ("changeswhencasemapped", changesWhenCasemapped),
    ("cwcm", changesWhenCasemapped), ("changeswhenlowercased", changesWhenLowercased),
    ("cwl", changesWhenLowercased), ("changeswhentitlecased", changesWhenTitlecased),
    ("cwt", changesWhenTitlecased), ("changeswhenuppercased", changesWhenUppercased),
    ("cwu", changesWhenUppercased), ("dash", dash), ("defaultignorablecodepoint", defaultIgnorable),
    ("di", defaultIgnorable), ("deprecated", deprecated), ("dep", deprecated),
    ("diacritic", diacritic), ("dia", diacritic), ("emoji", emoji),
    ("emojicomponent", emojiComponent), ("ecomp", emojiComponent), ("emojimodifier", emojiModifier),
    ("emod", emojiModifier), ("emojimodifierbase", emojiModifierBase), ("ebase", emojiModifierBase),
    ("emojipresentation", emojiPresentation), ("epres", emojiPresentation),
    ("extendedpictographic", extendedPictographic), ("extpict", extendedPictographic),
    ("extender", extender), ("ext", extender), ("graphemebase", graphemeBase),
    ("grbase", graphemeBase), ("graphemeextend", graphemeExtend), ("grext", graphemeExtend),
    ("graphemelink", graphemeLink), ("grlink", graphemeLink), ("hexdigit", hexDigit),
    ("hex", hexDigit), ("hyphen", hyphen), ("idsbinaryoperator", idsBinaryOperator),
    ("idsb", idsBinaryOperator), ("idstrinaryoperator", idsTrinaryOperator),
    ("idst", idsTrinaryOperator), ("idsunaryoperator", idsUnaryOperator),
    ("idsu", idsUnaryOperator), ("idcompatmathcontinue", idCompatMathContinue),
    ("idcompatmathstart", idCompatMathStart), ("idcontinue", idContinue), ("idc", idContinue),
    ("idstart", idStart), ("ids", idStart), ("ideographic", ideographic), ("ideo", ideographic),
    ("joincontrol", joinControl), ("joinc", joinControl),
    ("logicalorderexception", logicalOrderException), ("loe", logicalOrderException),
    ("lowercase", lowercase), ("lower", lowercase), ("math", math),
    ("modifiercombiningmark", modifierCombiningMark), ("mcm", modifierCombiningMark),
    ("noncharactercodepoint", noncharacter), ("nchar", noncharacter),
    ("otheralphabetic", otherAlphabetic), ("oalpha", otherAlphabetic),
    ("otherdefaultignorablecodepoint", otherDefaultIgnorable), ("odi", otherDefaultIgnorable),
    ("othergraphemeextend", otherGraphemeExtend), ("ogrext", otherGraphemeExtend),
    ("otheridcontinue", otherIdContinue), ("oidc", otherIdContinue), ("otheridstart", otherIdStart),
    ("oids", otherIdStart), ("otherlowercase", otherLowercase), ("olower", otherLowercase),
    ("othermath", otherMath), ("omath", otherMath), ("otheruppercase", otherUppercase),
    ("oupper", otherUppercase), ("patternsyntax", patternSyntax), ("patsyn", patternSyntax),
    ("patternwhitespace", patternWhiteSpace), ("patws", patternWhiteSpace),
    ("prependedconcatenationmark", prependedConcatenationMark), ("pcm", prependedConcatenationMark),
    ("quotationmark", quotationMark), ("qmark", quotationMark), ("radical", radical),
    ("regionalindicator", regionalIndicator), ("ri", regionalIndicator),
    ("sentenceterminal", sentenceTerminal), ("sterm", sentenceTerminal), ("softdotted", softDotted),
    ("sd", softDotted), ("terminalpunctuation", terminalPunctuation), ("term", terminalPunctuation),
    ("unifiedideograph", unifiedIdeograph), ("uideo", unifiedIdeograph), ("uppercase", uppercase),
    ("upper", uppercase), ("variationselector", variationSelector), ("vs", variationSelector),
    ("whitespace", blank), ("wspace", blank), ("space", blank), ("xidcontinue", xidContinue),
    ("xidc", xidContinue), ("xidstart", xidStart), ("xids", xidStart)]

end MeaningGraph.Text.Property
