import AppBundle.Pattern.Property.Category
import AppBundle.Unicode.Binary
import AppBundle.Unicode.CaseChange

/-! # Properties that a character has or has not

Some binary properties are listed in tables; the others follow from general categories and from
tables of exceptions, in the way in which the Unicode standard derives them.
-/

namespace AppBundle.Pattern.Binary

open CharSet Unicode

/-- Small letters and what counts as such. -/
def lowercase : CharSet := union (ofTable lowercaseLetterRanges) (ofTable otherLowercaseRanges)

/-- Capital letters and what counts as such. -/
def uppercase : CharSet := union (ofTable uppercaseLetterRanges) (ofTable otherUppercaseRanges)

/-- Characters of lower, upper or title case. -/
def cased : CharSet := anyOf [lowercase, uppercase, ofTable titlecaseLetterRanges]

/-- Characters that have no bearing on the case of what surrounds them. -/
def caseIgnorable : CharSet :=
  anyOf [ofTable nonspacingMarkRanges, ofTable enclosingMarkRanges, ofTable formatRanges,
    ofTable modifierLetterRanges, ofTable modifierSymbolRanges,
    codes [(0x27, 0x27), (0x2E, 0x2E), (0x3A, 0x3A), (0xB7, 0xB7), (0x387, 0x387), (0x55F, 0x55F),
      (0x5F4, 0x5F4), (0x2018, 0x2019), (0x2024, 0x2024), (0x2027, 0x2027), (0xFE13, 0xFE13),
      (0xFE52, 0xFE52), (0xFE55, 0xFE55), (0xFF07, 0xFF07), (0xFF0E, 0xFF0E), (0xFF1A, 0xFF1A)]]

/-- Characters that lower case changes. -/
def lowered : CharSet :=
  difference (union uppercase (ofTable titlecaseLetterRanges)) (ofTable fixedCapitalRanges)

/-- Characters that upper case changes. -/
def raised : CharSet :=
  difference (union lowercase (ofTable titlecaseLetterRanges)) (ofTable fixedSmallLetterRanges)

/-- Characters that title case changes. The letters of Georgian stay as they are, and of two letters
written as one only the first becomes a capital. -/
def titled : CharSet :=
  union (difference raised (union (ofTable titlecaseLetterRanges)
      (codes [(0x10D0, 0x10FA), (0x10FD, 0x10FF)])))
    (codes [(0x1C4, 0x1C4), (0x1C7, 0x1C7), (0x1CA, 0x1CA), (0x1F1, 0x1F1)])

/-- Characters that case folding changes. The capitals of Cherokee are what its letters are folded
to. -/
def casefolded : CharSet :=
  union (difference lowered (codes [(0x13A0, 0x13F5)])) (ofTable foldedOnlyRanges)

/-- Letters, numbers that are letters, and what else makes up words. -/
def alphabetic : CharSet :=
  anyOf [Category.letter, ofTable letterNumberRanges, ofTable otherLowercaseRanges,
    ofTable otherUppercaseRanges, ofTable otherAlphabeticRanges]

/-- Mathematical signs. -/
def math : CharSet := union (ofTable mathSymbolRanges) (ofTable otherMathRanges)

/-- Marks and other characters that extend the one before them. -/
def graphemeExtend : CharSet :=
  anyOf [ofTable nonspacingMarkRanges, ofTable enclosingMarkRanges,
    ofTable otherGraphemeExtendRanges]

/-- Characters that begin a character as a reader sees it. -/
def graphemeBase : CharSet :=
  complement (anyOf [Category.other, ofTable lineSeparatorRanges, ofTable paragraphSeparatorRanges,
    graphemeExtend])

/-- Characters that are not shown if a font does not know them. -/
def defaultIgnorable : CharSet :=
  union (ofTable otherDefaultIgnorableCodePointRanges)
    (difference (union (ofTable formatRanges) (ofTable variationSelectorRanges))
      (anyOf [ofTable blankRanges, codes [(0xFFF9, 0xFFFB), (0x13430, 0x13440)],
        ofTable prependedConcatenationMarkRanges]))

/-- The syntax and the white space of patterns, which is kept out of names. -/
def patternText : CharSet := union (ofTable patternSyntaxRanges) (ofTable patternWhiteSpaceRanges)

/-- Characters that a name can begin with. -/
def idStart : CharSet :=
  difference (anyOf [Category.letter, ofTable letterNumberRanges, ofTable otherIdStartRanges])
    patternText

/-- Characters that a name can go on with. -/
def idContinue : CharSet :=
  difference (anyOf [idStart, ofTable nonspacingMarkRanges, ofTable spacingMarkRanges,
      ofTable decimalDigitRanges, ofTable connectorPunctuationRanges, ofTable otherIdContinueRanges])
    patternText

/-- Characters that normalization makes into others that a name can not go on with. -/
def unstable : CharSet :=
  codes [(0x37A, 0x37A), (0x309B, 0x309C), (0xFC5E, 0xFC63), (0xFDFA, 0xFDFB), (0xFE70, 0xFE70),
    (0xFE72, 0xFE72), (0xFE74, 0xFE74), (0xFE76, 0xFE76), (0xFE78, 0xFE78), (0xFE7A, 0xFE7A),
    (0xFE7C, 0xFE7C), (0xFE7E, 0xFE7E)]

/-- Characters that a name can begin with, normalized or not. -/
def xidStart : CharSet :=
  difference idStart (union unstable
    (codes [(0xE33, 0xE33), (0xEB3, 0xEB3), (0xFF9E, 0xFF9F)]))

/-- Characters that a name can go on with, normalized or not. -/
def xidContinue : CharSet := difference idContinue unstable

/-- The binary properties. -/
def table : NameTable CharSet :=
  [(["ahex", "asciihexdigit"], ofTable asciiHexDigitRanges),
   (["alpha", "alphabetic"], alphabetic),
   (["bidic", "bidicontrol"], ofTable bidiControlRanges),
   (["ci", "caseignorable"], caseIgnorable),
   (["cased"], cased),
   (["cwcf", "changeswhencasefolded"], casefolded),
   (["cwcm", "changeswhencasemapped"], anyOf [lowered, raised, titled]),
   (["cwl", "changeswhenlowercased"], lowered),
   (["cwt", "changeswhentitlecased"], titled),
   (["cwu", "changeswhenuppercased"], raised),
   (["dash"], ofTable dashRanges),
   (["dep", "deprecated"], ofTable deprecatedRanges),
   (["di", "defaultignorablecodepoint"], defaultIgnorable),
   (["dia", "diacritic"], ofTable diacriticRanges),
   (["ebase", "emojimodifierbase"], ofTable emojiModifierBaseRanges),
   (["ecomp", "emojicomponent"], ofTable emojiComponentRanges),
   (["emod", "emojimodifier"], ofTable emojiModifierRanges),
   (["emoji"], ofTable emojiRanges),
   (["epres", "emojipresentation"], ofTable emojiPresentationRanges),
   (["ext", "extender"], ofTable extenderRanges),
   (["extpict", "extendedpictographic"], ofTable extendedPictographicRanges),
   (["grbase", "graphemebase"], graphemeBase),
   (["grext", "graphemeextend"], graphemeExtend),
   (["grlink", "graphemelink"], ofTable graphemeLinkRanges),
   (["hex", "hexdigit"], ofTable hexDigitRanges),
   (["hyphen"], ofTable hyphenRanges),
   (["idc", "idcontinue"], idContinue),
   (["idcompatmathcontinue"], ofTable idCompatMathContinueRanges),
   (["idcompatmathstart"], ofTable idCompatMathStartRanges),
   (["ideo", "ideographic"], ofTable ideographicRanges),
   (["ids", "idstart"], idStart),
   (["idsb", "idsbinaryoperator"], ofTable idsBinaryOperatorRanges),
   (["idst", "idstrinaryoperator"], ofTable idsTrinaryOperatorRanges),
   (["idsu", "idsunaryoperator"], ofTable idsUnaryOperatorRanges),
   (["joinc", "joincontrol"], ofTable joinControlRanges),
   (["loe", "logicalorderexception"], ofTable logicalOrderExceptionRanges),
   (["lower", "lowercase"], lowercase),
   (["math"], math),
   (["mcm", "modifiercombiningmark"], ofTable modifierCombiningMarkRanges),
   (["nchar", "noncharactercodepoint"], ofTable noncharacterCodePointRanges),
   (["oalpha", "otheralphabetic"], ofTable otherAlphabeticRanges),
   (["odi", "otherdefaultignorablecodepoint"], ofTable otherDefaultIgnorableCodePointRanges),
   (["ogrext", "othergraphemeextend"], ofTable otherGraphemeExtendRanges),
   (["oidc", "otheridcontinue"], ofTable otherIdContinueRanges),
   (["oids", "otheridstart"], ofTable otherIdStartRanges),
   (["olower", "otherlowercase"], ofTable otherLowercaseRanges),
   (["omath", "othermath"], ofTable otherMathRanges),
   (["oupper", "otheruppercase"], ofTable otherUppercaseRanges),
   (["patsyn", "patternsyntax"], ofTable patternSyntaxRanges),
   (["patws", "patternwhitespace"], ofTable patternWhiteSpaceRanges),
   (["pcm", "prependedconcatenationmark"], ofTable prependedConcatenationMarkRanges),
   (["qmark", "quotationmark"], ofTable quotationMarkRanges),
   (["radical"], ofTable radicalRanges),
   (["ri", "regionalindicator"], ofTable regionalIndicatorRanges),
   (["sd", "softdotted"], ofTable softDottedRanges),
   (["sterm", "sentenceterminal"], ofTable sentenceTerminalRanges),
   (["term", "terminalpunctuation"], ofTable terminalPunctuationRanges),
   (["uideo", "unifiedideograph"], ofTable unifiedIdeographRanges),
   (["upper", "uppercase"], uppercase),
   (["vs", "variationselector"], ofTable variationSelectorRanges),
   (["wspace", "whitespace", "space"], ofTable blankRanges),
   (["xidc", "xidcontinue"], xidContinue),
   (["xids", "xidstart"], xidStart)]

end AppBundle.Pattern.Binary
