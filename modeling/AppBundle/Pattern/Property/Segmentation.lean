import AppBundle.Pattern.Property.Binary
import AppBundle.Unicode.Script

/-! # Properties that text is divided by

The Unicode standard divides a text into characters as a reader sees them, into words and into
sentences by one property each. Their values are derived here from other properties as in the
standard. A character without a value of its own has the value `Other`, which can not be asked for.
-/

namespace AppBundle.Pattern.Segmentation

open CharSet Unicode

/-- The set of one code point. -/
def one (code : Nat) : CharSet := codes [(code, code)]

/-- The characters of a script; the name is in normal form. -/
def script (name : String) : CharSet := ((scripts.lookUp? name).map ofTable).getD nothing

namespace Grapheme

/-- Marks and the colours of emoji. -/
def extend : CharSet := union Binary.graphemeExtend (ofTable emojiModifierRanges)

/-- Controls and what else is never part of a longer character. -/
def control : CharSet :=
  difference
    (anyOf [ofTable lineSeparatorRanges, ofTable paragraphSeparatorRanges, ofTable controlRanges,
      ofTable formatRanges, intersection Category.unassigned Binary.defaultIgnorable])
    (anyOf [codes [(0xA, 0xA), (0xD, 0xD), (0x200C, 0x200D)],
      ofTable prependedConcatenationMarkRanges, extend])

/-- Signs that belong to the character behind them. -/
def prepend : CharSet :=
  union (ofTable prependedConcatenationMarkRanges)
    (codes [(0xD4E, 0xD4E), (0x111C2, 0x111C3), (0x113D1, 0x113D1), (0x1193F, 0x1193F),
      (0x11941, 0x11941), (0x11A3A, 0x11A3A), (0x11A84, 0x11A89), (0x11D46, 0x11D46),
      (0x11F02, 0x11F02)])

/-- Marks with a width. -/
def spacingMark : CharSet :=
  difference (union (ofTable spacingMarkRanges) (codes [(0xE33, 0xE33), (0xEB3, 0xEB3)]))
    (union extend
      (codes [(0x102B, 0x102C), (0x1038, 0x1038), (0x1062, 0x1064), (0x1067, 0x106D),
        (0x1083, 0x1083), (0x1087, 0x108C), (0x108F, 0x108F), (0x109A, 0x109C), (0x1A61, 0x1A61),
        (0x1A63, 0x1A64), (0xAA7B, 0xAA7B), (0xAA7D, 0xAA7D), (0x11720, 0x11721)]))

/-- Every block of Hangul syllables with the same beginning and vowel takes up 28 code points; the
first of them is the one without an end. -/
def hangulBlocks (first last : Nat) : CharSet :=
  codes ((List.range 399).map fun block => (0xAC00 + 28 * block + first, 0xAC00 + 28 * block + last))

/-- The values of `Grapheme_Cluster_Break`. -/
def table : NameTable CharSet :=
  [(["cn", "control"], control),
   (["cr"], one 0xD),
   (["ex", "extend"], extend),
   (["l"], codes [(0x1100, 0x115F), (0xA960, 0xA97C)]),
   (["lf"], one 0xA),
   (["lv"], hangulBlocks 0 0),
   (["lvt"], hangulBlocks 1 27),
   (["pp", "prepend"], prepend),
   (["ri", "regionalindicator"], ofTable regionalIndicatorRanges),
   (["sm", "spacingmark"], spacingMark),
   (["t"], codes [(0x11A8, 0x11FF), (0xD7CB, 0xD7FB)]),
   (["v"], codes [(0x1160, 0x11A7), (0xD7B0, 0xD7C6), (0x16D63, 0x16D63), (0x16D67, 0x16D6A)]),
   (["zwj"], one 0x200D)]

end Grapheme

namespace Sentence

/-- Marks and what else belongs to the character before it. -/
def extend : CharSet := anyOf [Binary.graphemeExtend, ofTable spacingMarkRanges, one 0x200D]

/-- Separators of lines and paragraphs. -/
def separator : CharSet := codes [(0x85, 0x85), (0x2028, 0x2029)]

/-- Small letters with capital ones at the beginnings of sentences. -/
def lower : CharSet :=
  difference Binary.lowercase
    (union Binary.graphemeExtend (codes [(0x10D0, 0x10FA), (0x10FD, 0x10FF)]))

/-- Capital letters at the beginnings of sentences. -/
def upper : CharSet :=
  difference (union Binary.uppercase (ofTable titlecaseLetterRanges))
    (codes [(0x1C90, 0x1CBA), (0x1CBD, 0x1CBF)])

/-- Full stops, which may also end an abbreviation. -/
def fullStop : CharSet :=
  codes [(0x2E, 0x2E), (0x2024, 0x2024), (0xFE52, 0xFE52), (0xFF0E, 0xFF0E)]

/-- The values of `Sentence_Break`. -/
def table : NameTable CharSet :=
  [(["at", "aterm"], fullStop),
   (["cl", "close"],
     union Category.enclosing
       (codes [(0x22, 0x22), (0x27, 0x27), (0x275B, 0x2760), (0x2E00, 0x2E01), (0x2E06, 0x2E08),
         (0x2E0B, 0x2E0B), (0x1F676, 0x1F678)])),
   (["cr"], one 0xD),
   (["ex", "extend"], extend),
   (["fo", "format"], difference (ofTable formatRanges) extend),
   (["le", "oletter"],
     difference (union Binary.alphabetic (one 0x5F3)) (anyOf [lower, upper, extend])),
   (["lf"], one 0xA),
   (["lo", "lower"], lower),
   (["nu", "numeric"], union (ofTable decimalDigitRanges) (codes [(0x66B, 0x66C)])),
   (["sc", "scontinue"],
     codes [(0x2C, 0x2D), (0x3A, 0x3B), (0x37E, 0x37E), (0x55D, 0x55D), (0x60C, 0x60D),
       (0x7F8, 0x7F8), (0x1802, 0x1802), (0x1808, 0x1808), (0x2013, 0x2014), (0x3001, 0x3001),
       (0xFE10, 0xFE11), (0xFE13, 0xFE14), (0xFE31, 0xFE32), (0xFE50, 0xFE51), (0xFE54, 0xFE55),
       (0xFE58, 0xFE58), (0xFE63, 0xFE63), (0xFF0C, 0xFF0D), (0xFF1A, 0xFF1B), (0xFF64, 0xFF64)]),
   (["se", "sep"], separator),
   (["sp"], difference (ofTable blankRanges) (union separator (codes [(0xA, 0xA), (0xD, 0xD)]))),
   (["st", "sterm"], difference (ofTable sentenceTerminalRanges) fullStop),
   (["up", "upper"], upper)]

end Sentence

namespace Word

/-- Marks and what else belongs to the character before it. -/
def extend : CharSet :=
  difference (union Grapheme.extend (ofTable spacingMarkRanges)) (one 0x200D)

/-- Signs of Katakana, and of what is written between them. -/
def katakana : CharSet :=
  union (script "kana")
    (codes [(0x3031, 0x3035), (0x309B, 0x309C), (0x30A0, 0x30A0), (0x30FC, 0x30FC),
      (0xFF70, 0xFF70)])

/-- Letters of Hebrew. -/
def hebrew : CharSet := intersection (script "hebr") (ofTable otherLetterRanges)

/-- Scripts that do not put blanks between words. -/
def unspaced : CharSet :=
  anyOf (["thai", "laoo", "hira", "mymr", "tale", "talu", "lana", "tavt", "ahom", "khmr"].map script)

/-- Letters of scripts that put blanks between words. -/
def letter : CharSet :=
  union
    (difference Binary.alphabetic
      (anyOf [ofTable ideographicRanges, katakana, unspaced, extend, hebrew]))
    (codes [(0x2C2, 0x2C5), (0x2D2, 0x2D7), (0x2DE, 0x2DF), (0x2E5, 0x2EB), (0x2ED, 0x2ED),
      (0x2EF, 0x2FF), (0x55A, 0x55C), (0x55E, 0x55E), (0x58A, 0x58A), (0x5F3, 0x5F3),
      (0xA708, 0xA716), (0xA720, 0xA721), (0xA789, 0xA78A), (0xAB5B, 0xAB5B)])

/-- The values of `Word_Break`. -/
def table : NameTable CharSet :=
  [(["cr"], one 0xD),
   (["dq", "doublequote"], one 0x22),
   (["ex", "extendnumlet"], union (ofTable connectorPunctuationRanges) (one 0x202F)),
   (["extend"], extend),
   (["fo", "format"],
     difference (ofTable formatRanges) (union extend (codes [(0x200B, 0x200D)]))),
   (["hl", "hebrewletter"], hebrew),
   (["ka", "katakana"], katakana),
   (["le", "aletter"], letter),
   (["lf"], one 0xA),
   (["mb", "midnumlet"],
     codes [(0x2E, 0x2E), (0x2018, 0x2019), (0x2024, 0x2024), (0xFE52, 0xFE52), (0xFF07, 0xFF07),
       (0xFF0E, 0xFF0E)]),
   (["ml", "midletter"],
     codes [(0x3A, 0x3A), (0xB7, 0xB7), (0x387, 0x387), (0x55F, 0x55F), (0x5F4, 0x5F4),
       (0x2027, 0x2027), (0xFE13, 0xFE13), (0xFE55, 0xFE55), (0xFF1A, 0xFF1A)]),
   (["mn", "midnum"],
     codes [(0x2C, 0x2C), (0x3B, 0x3B), (0x37E, 0x37E), (0x589, 0x589), (0x60C, 0x60D),
       (0x66C, 0x66C), (0x7F8, 0x7F8), (0x2044, 0x2044), (0xFE10, 0xFE10), (0xFE14, 0xFE14),
       (0xFE50, 0xFE50), (0xFE54, 0xFE54), (0xFF0C, 0xFF0C), (0xFF1B, 0xFF1B)]),
   (["nl", "newline"], codes [(0xB, 0xC), (0x85, 0x85), (0x2028, 0x2029)]),
   (["nu", "numeric"], union (ofTable decimalDigitRanges) (one 0x66B)),
   (["ri", "regionalindicator"], ofTable regionalIndicatorRanges),
   (["sq", "singlequote"], one 0x27),
   (["wsegspace"],
     difference (ofTable spaceSeparatorRanges)
       (codes [(0xA0, 0xA0), (0x2007, 0x2007), (0x202F, 0x202F)])),
   (["zwj"], one 0x200D)]

end Word

end AppBundle.Pattern.Segmentation
