import LogFilter.Pattern.Classes
import LogFilter.Text.PropertyTable
import LogFilter.Text.ScriptTable

/-!
# Classes of characters by their part in a text

Unicode says where a text falls into clusters of characters, into words and into sentences. For each
of the three it sorts characters by what they do there: the properties Grapheme_Cluster_Break,
Word_Break and Sentence_Break. Their values are given here by the properties they follow from.
Values of no character are not among them, nor is the value of all other characters.
-/

namespace LogFilter.CharSet

open Text

/-! ## Parts that the three have in common -/

def carriageReturn : CharSet := ⟨[(0xD, 0xD)]⟩

def lineFeed : CharSet := ⟨[(0xA, 0xA)]⟩

def zeroWidthJoiner : CharSet := ⟨[(0x200D, 0x200D)]⟩

def regionalIndicators : CharSet := ⟨[(0x1F1E6, 0x1F1FF)]⟩

/-- Signs that stand before the digits they belong to. -/
def prependedMarks : CharSet :=
  ⟨[(0x600, 0x605), (0x6DD, 0x6DD), (0x70F, 0x70F), (0x890, 0x891), (0x8E2, 0x8E2),
    (0x110BD, 0x110BD), (0x110CD, 0x110CD)]⟩

/-- The one of these signs that belongs to letters. -/
def abbreviationMark : CharSet := ⟨[(0x70F, 0x70F)]⟩

/-- Format characters that are no part of the character before them. -/
def freeFormats : CharSet :=
  (category .cf).diff (unionAll [[(0x200C, 0x200D)], graphemeExtend.ranges])

/-! ## Clusters -/

def clusterPrepend : CharSet :=
  unionAll [prependedMarks.ranges, [(0xD4E, 0xD4E), (0x111C2, 0x111C3), (0x113D1, 0x113D1),
    (0x1193F, 0x1193F), (0x11941, 0x11941), (0x11A3A, 0x11A3A), (0x11A84, 0x11A89),
    (0x11D46, 0x11D46), (0x11F02, 0x11F02)]]

def clusterExtend : CharSet := unionAll [graphemeExtend.ranges, emojiModifierTable]

/-- Controls, and code points set apart to be controls. -/
def clusterControl : CharSet :=
  let controls := ofCategories fun c => c == .zl || c == .zp || c == .cc || c == .cf
  let reserved := (category .cn).inter ⟨defaultIgnorableTable⟩
  (controls.union reserved).diff (unionAll [carriageReturn.ranges, lineFeed.ranges,
    [(0x200C, 0x200D)], prependedMarks.ranges, clusterExtend.ranges])

/-- Vowel signs and the like, but for those of some scripts of South East Asia. -/
def clusterSpacingMark : CharSet :=
  (unionAll [(category .mc).ranges, [(0xE33, 0xE33), (0xEB3, 0xEB3)]]).diff (unionAll
    [clusterExtend.ranges, [(0x102B, 0x102C), (0x1038, 0x1038), (0x1062, 0x1064),
    (0x1067, 0x106D), (0x1083, 0x1083), (0x1087, 0x108C), (0x108F, 0x108F), (0x109A, 0x109C),
    (0x1A61, 0x1A61), (0x1A63, 0x1A64), (0xAA7B, 0xAA7B), (0xAA7D, 0xAA7D), (0x11720, 0x11721)]])

/-- Korean syllables. -/
def hangulSyllables : CharSet := ⟨[(0xAC00, 0xD7A3)]⟩

/-- Korean syllables without a final consonant, which are every twenty-eighth. -/
def openHangulSyllables : CharSet :=
  ofRanges ((List.range 399).map fun k => (0xAC00 + 28 * k, 0xAC00 + 28 * k))

/-- The characters of a value of Grapheme_Cluster_Break. -/
def clusterBreak? (name : String) : Option CharSet :=
  match name with
  | "cn" | "control" => some clusterControl
  | "cr" => some carriageReturn
  | "ex" | "extend" => some clusterExtend
  | "l" => some ⟨[(0x1100, 0x115F), (0xA960, 0xA97C)]⟩
  | "lf" => some lineFeed
  | "lv" => some openHangulSyllables
  | "lvt" => some (hangulSyllables.diff openHangulSyllables)
  | "pp" | "prepend" => some clusterPrepend
  | "ri" | "regionalindicator" => some regionalIndicators
  | "sm" | "spacingmark" => some clusterSpacingMark
  | "t" => some ⟨[(0x11A8, 0x11FF), (0xD7CB, 0xD7FB)]⟩
  | "v" =>
    some ⟨[(0x1160, 0x11A7), (0xD7B0, 0xD7C6), (0x16D63, 0x16D63), (0x16D67, 0x16D6A)]⟩
  | "zwj" => some zeroWidthJoiner
  | _ => none

/-! ## Words -/

def wordExtend : CharSet :=
  unionAll [graphemeExtend.ranges, (category .mc).ranges, emojiModifierTable]

def wordFormat : CharSet := freeFormats.diff (unionAll [[(0x200B, 0x200B)], clusterPrepend.ranges])

def wordKatakana : CharSet :=
  unionAll [Script.kana.own, [(0x3031, 0x3035), (0x309B, 0x309C), (0x30A0, 0x30A0),
    (0x30FC, 0x30FC), (0xFF70, 0xFF70)]]

def wordHebrew : CharSet := inter ⟨Script.hebr.own⟩ (category .lo)

/-- Characters of the scripts that write words without spaces between them. -/
def unspaced : CharSet :=
  ⟨[(0xE01, 0xE3A), (0xE40, 0xE4E), (0xE81, 0xE82), (0xE84, 0xE84), (0xE86, 0xE8A),
    (0xE8C, 0xEA3), (0xEA5, 0xEA5), (0xEA7, 0xEBD), (0xEC0, 0xEC4), (0xEC6, 0xEC6),
    (0xEC8, 0xECE), (0xEDC, 0xEDF), (0x1000, 0x103F), (0x1050, 0x108F), (0x109A, 0x109F),
    (0x1780, 0x17D3), (0x17D7, 0x17D7), (0x17DC, 0x17DD), (0x1950, 0x196D), (0x1970, 0x1974),
    (0x1980, 0x19AB), (0x19B0, 0x19C9), (0x19DE, 0x19DF), (0x1A20, 0x1A5E), (0x1A60, 0x1A7C),
    (0x1AA0, 0x1AAD), (0xA9E0, 0xA9EF), (0xA9FA, 0xA9FE), (0xAA60, 0xAAC2), (0xAADB, 0xAADF),
    (0x11700, 0x1171A), (0x1171D, 0x1172B), (0x1173A, 0x1173B), (0x1173F, 0x11746)]⟩

/-- Characters without the property Alphabetic that are letters in a word. -/
def otherWordLetters : RangeTable :=
  [(0xB8, 0xB8), (0x2C2, 0x2C5), (0x2D2, 0x2D7), (0x2DE, 0x2DF), (0x2E5, 0x2EB), (0x2ED, 0x2ED),
    (0x2EF, 0x2FF), (0x55A, 0x55C), (0x55E, 0x55E), (0x58A, 0x58A), (0x5F3, 0x5F3),
    (0x70F, 0x70F), (0xA708, 0xA716), (0xA720, 0xA721), (0xA789, 0xA78A), (0xAB5B, 0xAB5B)]

def wordLetter : CharSet :=
  (unionAll [alphabetic.ranges, otherWordLetters]).diff (unionAll [ideographicTable,
    wordKatakana.ranges, unspaced.ranges, Script.hira.own, wordExtend.ranges, wordHebrew.ranges])

/-- Digits, and the signs that stand before them. -/
def wordNumeric : CharSet :=
  unionAll [((category .nd).diff unspaced).ranges, [(0x66B, 0x66B), (0x19DA, 0x19DA)],
    (prependedMarks.diff abbreviationMark).ranges]

/-- The characters of a value of Word_Break. -/
def wordBreak? (name : String) : Option CharSet :=
  match name with
  | "cr" => some carriageReturn
  | "dq" | "doublequote" => some ⟨[(0x22, 0x22)]⟩
  | "ex" | "extendnumlet" => some (unionAll [(category .pc).ranges, [(0x202F, 0x202F)]])
  | "extend" => some wordExtend
  | "fo" | "format" => some wordFormat
  | "hl" | "hebrewletter" => some wordHebrew
  | "ka" | "katakana" => some wordKatakana
  | "le" | "aletter" => some wordLetter
  | "lf" => some lineFeed
  | "mb" | "midnumlet" =>
    some ⟨[(0x2E, 0x2E), (0x2018, 0x2019), (0x2024, 0x2024), (0xFE52, 0xFE52), (0xFF07, 0xFF07),
      (0xFF0E, 0xFF0E)]⟩
  | "ml" | "midletter" =>
    some ⟨[(0x3A, 0x3A), (0xB7, 0xB7), (0x387, 0x387), (0x55F, 0x55F), (0x5F4, 0x5F4),
      (0x2027, 0x2027), (0xFE13, 0xFE13), (0xFE55, 0xFE55), (0xFF1A, 0xFF1A)]⟩
  | "mn" | "midnum" =>
    some ⟨[(0x2C, 0x2C), (0x3B, 0x3B), (0x37E, 0x37E), (0x589, 0x589), (0x60C, 0x60D),
      (0x66C, 0x66C), (0x7F8, 0x7F8), (0x2044, 0x2044), (0xFE10, 0xFE10), (0xFE14, 0xFE14),
      (0xFE50, 0xFE50), (0xFE54, 0xFE54), (0xFF0C, 0xFF0C), (0xFF1B, 0xFF1B)]⟩
  | "nl" | "newline" => some ⟨[(0xB, 0xC), (0x85, 0x85), (0x2028, 0x2029)]⟩
  | "nu" | "numeric" => some wordNumeric
  | "ri" | "regionalindicator" => some regionalIndicators
  | "sq" | "singlequote" => some ⟨[(0x27, 0x27)]⟩
  | "wsegspace" =>
    some ⟨[(0x20, 0x20), (0x1680, 0x1680), (0x2000, 0x2006), (0x2008, 0x200A), (0x205F, 0x205F),
      (0x3000, 0x3000)]⟩
  | "zwj" => some zeroWidthJoiner
  | _ => none

/-! ## Sentences -/

def sentenceExtend : CharSet :=
  unionAll [graphemeExtend.ranges, zeroWidthJoiner.ranges, (category .mc).ranges]

def sentenceFormat : CharSet := freeFormats.diff (clusterPrepend.diff abbreviationMark)

/-- Small Georgian letters, which are no small letters in a sentence. -/
def smallGeorgian : RangeTable := [(0x10D0, 0x10FA), (0x10FD, 0x10FF)]

/-- Capital Georgian letters, which are no capitals in a sentence. -/
def capitalGeorgian : RangeTable := [(0x1C90, 0x1CBA), (0x1CBD, 0x1CBF)]

/-- Characters with the property Lowercase. -/
def lowercase : CharSet := unionAll [(category .ll).ranges, otherLowercaseTable]

/-- Characters with the property Uppercase. -/
def uppercase : CharSet := unionAll [(category .lu).ranges, otherUppercaseTable]

def sentenceLower : CharSet := lowercase.diff (unionAll [graphemeExtend.ranges, smallGeorgian])

def sentenceUpper : CharSet := (uppercase.union (category .lt)).diff ⟨capitalGeorgian⟩

def sentenceLetter : CharSet :=
  (unionAll [alphabetic.ranges, [(0x5F3, 0x5F3)]]).diff
    (unionAll [sentenceLower.ranges, sentenceUpper.ranges, sentenceExtend.ranges])

/-- Full stops, after which a sentence need not end. -/
def fullStops : CharSet :=
  ⟨[(0x2E, 0x2E), (0x2024, 0x2024), (0xFE52, 0xFE52), (0xFF0E, 0xFF0E)]⟩

/-- Brackets and quotes. -/
def sentenceClose : CharSet :=
  let brackets := ofCategories fun c => c == .ps || c == .pe || c == .pi || c == .pf
  (unionAll [brackets.ranges, [(0x22, 0x22), (0x27, 0x27), (0x275B, 0x2760), (0x2E00, 0x2E01),
    (0x2E06, 0x2E08), (0x2E0B, 0x2E0B), (0x1F676, 0x1F678)]]).diff
    (unionAll [[(0x5F3, 0x5F3)], fullStops.ranges, sentenceTerminalTable])

def sentenceSeparator : CharSet := ⟨[(0x85, 0x85), (0x2028, 0x2029)]⟩

/-- The characters of a value of Sentence_Break. -/
def sentenceBreak? (name : String) : Option CharSet :=
  match name with
  | "at" | "aterm" => some fullStops
  | "cl" | "close" => some sentenceClose
  | "cr" => some carriageReturn
  | "ex" | "extend" => some sentenceExtend
  | "fo" | "format" => some sentenceFormat
  | "le" | "oletter" => some sentenceLetter
  | "lf" => some lineFeed
  | "lo" | "lower" => some sentenceLower
  | "nu" | "numeric" => some (unionAll [wordNumeric.ranges, [(0x66C, 0x66C)]])
  | "sc" | "scontinue" =>
    some ⟨[(0x2C, 0x2D), (0x3A, 0x3B), (0x37E, 0x37E), (0x55D, 0x55D), (0x60C, 0x60D),
      (0x7F8, 0x7F8), (0x1802, 0x1802), (0x1808, 0x1808), (0x2013, 0x2014), (0x3001, 0x3001),
      (0xFE10, 0xFE11), (0xFE13, 0xFE14), (0xFE31, 0xFE32), (0xFE50, 0xFE51), (0xFE54, 0xFE55),
      (0xFE58, 0xFE58), (0xFE63, 0xFE63), (0xFF0C, 0xFF0D), (0xFF1A, 0xFF1B), (0xFF64, 0xFF64)]⟩
  | "se" | "sep" => some sentenceSeparator
  | "sp" =>
    some ((blanks true).diff
      (unionAll [sentenceSeparator.ranges, carriageReturn.ranges, lineFeed.ranges]))
  | "st" | "sterm" => some (diff ⟨sentenceTerminalTable⟩ fullStops)
  | "up" | "upper" => some sentenceUpper
  | _ => none

end LogFilter.CharSet
