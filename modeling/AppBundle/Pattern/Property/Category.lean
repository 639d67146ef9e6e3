import AppBundle.Pattern.CharSet
import AppBundle.Unicode.Category.Letter
import AppBundle.Unicode.Category.Mark
import AppBundle.Unicode.Category.Sign
import AppBundle.Unicode.PropertyName

/-! # General categories

Every character has one of the general categories of Unicode; a name stands for a category, for a
group of them or for all characters of some kind. No character is a surrogate, and that category is
not known by any name.
-/

namespace AppBundle.Pattern.Category

open CharSet Unicode

/-- Letters that have another case. -/
def casedLetter : CharSet :=
  anyOf [ofTable uppercaseLetterRanges, ofTable lowercaseLetterRanges,
    ofTable titlecaseLetterRanges]

/-- Letters of all kinds. -/
def letter : CharSet :=
  anyOf [casedLetter, ofTable modifierLetterRanges, ofTable otherLetterRanges]

/-- Marks of all kinds. -/
def mark : CharSet :=
  anyOf [ofTable nonspacingMarkRanges, ofTable spacingMarkRanges, ofTable enclosingMarkRanges]

/-- Numbers of all kinds. -/
def number : CharSet :=
  anyOf [ofTable decimalDigitRanges, ofTable letterNumberRanges, ofTable otherNumberRanges]

/-- Brackets and quotation marks. -/
def enclosing : CharSet :=
  anyOf [ofTable openPunctuationRanges, ofTable closePunctuationRanges,
    ofTable initialPunctuationRanges, ofTable finalPunctuationRanges]

/-- Punctuation of all kinds. -/
def punctuation : CharSet :=
  anyOf [ofTable connectorPunctuationRanges, ofTable dashPunctuationRanges, enclosing,
    ofTable otherPunctuationRanges]

/-- Symbols of all kinds. -/
def symbol : CharSet :=
  anyOf [ofTable mathSymbolRanges, ofTable currencySymbolRanges, ofTable modifierSymbolRanges,
    ofTable otherSymbolRanges]

/-- Separators of all kinds. -/
def separator : CharSet :=
  anyOf [ofTable spaceSeparatorRanges, ofTable lineSeparatorRanges,
    ofTable paragraphSeparatorRanges]

/-- What is assigned a code point. -/
def assigned : CharSet :=
  anyOf [letter, mark, number, punctuation, symbol, separator, ofTable controlRanges,
    ofTable formatRanges, ofTable privateUseRanges]

/-- What no category is given to. -/
def unassigned : CharSet := complement assigned

/-- Whatever has another category than those of letters, marks, numbers and signs. -/
def other : CharSet :=
  anyOf [ofTable controlRanges, ofTable formatRanges, ofTable privateUseRanges, unassigned]

/-- The general categories and their groups. -/
def table : NameTable CharSet :=
  [(["lu", "uppercaseletter"], ofTable uppercaseLetterRanges),
   (["ll", "lowercaseletter"], ofTable lowercaseLetterRanges),
   (["lt", "titlecaseletter"], ofTable titlecaseLetterRanges),
   (["lm", "modifierletter"], ofTable modifierLetterRanges),
   (["lo", "otherletter"], ofTable otherLetterRanges),
   (["mn", "nonspacingmark"], ofTable nonspacingMarkRanges),
   (["mc", "spacingmark"], ofTable spacingMarkRanges),
   (["me", "enclosingmark"], ofTable enclosingMarkRanges),
   (["nd", "decimalnumber", "digit"], ofTable decimalDigitRanges),
   (["nl", "letternumber"], ofTable letterNumberRanges),
   (["no", "othernumber"], ofTable otherNumberRanges),
   (["pc", "connectorpunctuation"], ofTable connectorPunctuationRanges),
   (["pd", "dashpunctuation"], ofTable dashPunctuationRanges),
   (["ps", "openpunctuation"], ofTable openPunctuationRanges),
   (["pe", "closepunctuation"], ofTable closePunctuationRanges),
   (["pi", "initialpunctuation"], ofTable initialPunctuationRanges),
   (["pf", "finalpunctuation"], ofTable finalPunctuationRanges),
   (["po", "otherpunctuation"], ofTable otherPunctuationRanges),
   (["sm", "mathsymbol"], ofTable mathSymbolRanges),
   (["sc", "currencysymbol"], ofTable currencySymbolRanges),
   (["sk", "modifiersymbol"], ofTable modifierSymbolRanges),
   (["so", "othersymbol"], ofTable otherSymbolRanges),
   (["zs", "spaceseparator"], ofTable spaceSeparatorRanges),
   (["zl", "lineseparator"], ofTable lineSeparatorRanges),
   (["zp", "paragraphseparator"], ofTable paragraphSeparatorRanges),
   (["cc", "control", "cntrl"], ofTable controlRanges),
   (["cf", "format"], ofTable formatRanges),
   (["co", "privateuse"], ofTable privateUseRanges),
   (["cn", "unassigned"], unassigned),
   (["lc", "casedletter"], casedLetter),
   (["l", "letter"], letter),
   (["m", "mark", "combiningmark"], mark),
   (["n", "number"], number),
   (["p", "punctuation", "punct"], punctuation),
   (["s", "symbol"], symbol),
   (["z", "separator"], separator),
   (["c", "other"], other),
   (["any"], complement nothing),
   (["assigned"], assigned),
   (["ascii"], codes [(0x0, 0x7F)])]

end AppBundle.Pattern.Category
