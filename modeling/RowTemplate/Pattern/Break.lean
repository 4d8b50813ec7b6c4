import RowTemplate.Pattern.BinaryProperty
import RowTemplate.Pattern.Script

/-! # Text boundaries

The classes of characters by which texts are divided into graphemes, words and
sentences. A class is told by categories and binary properties, and by tables
of what it takes besides.
-/

namespace RowTemplate.Pattern

open Text

/-- The character marks the end of a line or a paragraph. -/
def isSeparator (c : Char) : Bool := c = '\u0085' || c = '\u2028' || c = '\u2029'

/-! ## Graphemes -/

/-- Letters that are written before the consonant that they belong to. -/
def prependingRanges : Ranges :=
  [(0xD4E, 0xD4E), (0x111C2, 0x111C3), (0x113D1, 0x113D1), (0x1193F, 0x1193F), (0x11941, 0x11941),
   (0x11A3A, 0x11A3A), (0x11A84, 0x11A89), (0x11D46, 0x11D46), (0x11F02, 0x11F02)]

/-- Spacing marks that keep a place of their own. -/
def restingMarkRanges : Ranges :=
  [(0x102B, 0x102C), (0x1038, 0x1038), (0x1062, 0x1064), (0x1067, 0x106D), (0x1083, 0x1083),
   (0x1087, 0x108C), (0x108F, 0x108F), (0x109A, 0x109C), (0x1A61, 0x1A61), (0x1A63, 0x1A64),
   (0xAA7B, 0xAA7B), (0xAA7D, 0xAA7D), (0x11720, 0x11721)]

/-- The grapheme class Extend. -/
def extendsGrapheme : CharSet := fun c => graphemeExtend c || isEmojiModifier c

/-- The grapheme class Control. -/
def controlsGrapheme : CharSet := fun c =>
  (ofCategories [.lineSeparator, .paragraphSeparator, .control, .format] c ||
      (ofCategory .unassigned c && defaultIgnorable c)) &&
    !(c = '\r' || c = '\n' || isJoiner c || prependedRanges.holds c || graphemeExtend c)

/-- The grapheme class SpacingMark. -/
def spacesGrapheme : CharSet := fun c =>
  ((ofCategory .spacingMark c && !extendsGrapheme c) || c = '\u0e33' || c = '\u0eb3') &&
    !restingMarkRanges.holds c

/-- Syllables of Hangul. -/
def isSyllable (c : Char) : Bool := 0xAC00 ≤ c.toNat && c.toNat ≤ 0xD7A3

/-- A syllable of Hangul that has no final consonant. -/
def isOpenSyllable (c : Char) : Bool := isSyllable c && (c.toNat - 0xAC00) % 28 = 0

/-- The classes of graphemes with their names. -/
def graphemeBreaks : List (List String × CharSet) :=
  [(["cr"], (· = '\r')),
   (["lf"], (· = '\n')),
   (["cn", "control"], controlsGrapheme),
   (["ex", "extend"], extendsGrapheme),
   (["zwj"], (· = '\u200d')),
   (["ri", "regionalindicator"], isRegionalIndicator),
   (["pp", "prepend"], fun c => prependedRanges.holds c || prependingRanges.holds c),
   (["sm", "spacingmark"], spacesGrapheme),
   (["l"], Ranges.holds [(0x1100, 0x115F), (0xA960, 0xA97C)]),
   (["v"], Ranges.holds
     [(0x1160, 0x11A7), (0xD7B0, 0xD7C6), (0x16D63, 0x16D63), (0x16D67, 0x16D6A)]),
   (["t"], Ranges.holds [(0x11A8, 0x11FF), (0xD7CB, 0xD7FB)]),
   (["lv"], isOpenSyllable),
   (["lvt"], fun c => isSyllable c && !isOpenSyllable c)]

/-! ## Words -/

/-- Scripts whose words are not divided by spaces. -/
def complexRanges : Ranges :=
  [(0xE01, 0xE3A), (0xE40, 0xE4E), (0xE81, 0xE82), (0xE84, 0xE84), (0xE86, 0xE8A), (0xE8C, 0xEA3),
   (0xEA5, 0xEA5), (0xEA7, 0xEBD), (0xEC0, 0xEC4), (0xEC6, 0xEC6), (0xEC8, 0xECE), (0xEDC, 0xEDF),
   (0x1000, 0x103F), (0x1050, 0x108F), (0x109A, 0x109F), (0x1780, 0x17D3), (0x17D7, 0x17D7),
   (0x17DC, 0x17DD), (0x1950, 0x196D), (0x1970, 0x1974), (0x1980, 0x19AB), (0x19B0, 0x19C9),
   (0x19DA, 0x19DA), (0x19DE, 0x19DF), (0x1A20, 0x1A5E), (0x1A60, 0x1A7C), (0x1AA0, 0x1AAD),
   (0xA9E0, 0xA9EF), (0xA9FA, 0xA9FE), (0xAA60, 0xAAC2), (0xAADB, 0xAADF), (0x11700, 0x1171A),
   (0x1171D, 0x1172B), (0x1173A, 0x1173B), (0x1173F, 0x11746)]

/-- Signs that count as letters within a word. -/
def wordLetterRanges : Ranges :=
  [(0xB8, 0xB8), (0x2C2, 0x2C5), (0x2D2, 0x2D7), (0x2DE, 0x2DF), (0x2E5, 0x2EB), (0x2ED, 0x2ED),
   (0x2EF, 0x2FF), (0x55A, 0x55C), (0x55E, 0x55E), (0x58A, 0x58A), (0x5F3, 0x5F3), (0x70F, 0x70F),
   (0xA708, 0xA716), (0xA720, 0xA721), (0xA789, 0xA78A), (0xAB5B, 0xAB5B)]

/-- Signs that part the letters of one word. -/
def midLetterRanges : Ranges :=
  [(0x3A, 0x3A), (0xB7, 0xB7), (0x387, 0x387), (0x55F, 0x55F), (0x5F4, 0x5F4), (0x2027, 0x2027),
   (0xFE13, 0xFE13), (0xFE55, 0xFE55), (0xFF1A, 0xFF1A)]

/-- Signs that part the digits of one number. -/
def midNumberRanges : Ranges :=
  [(0x2C, 0x2C), (0x3B, 0x3B), (0x37E, 0x37E), (0x589, 0x589), (0x60C, 0x60D), (0x66C, 0x66C),
   (0x7F8, 0x7F8), (0x2044, 0x2044), (0xFE10, 0xFE10), (0xFE14, 0xFE14), (0xFE50, 0xFE50),
   (0xFE54, 0xFE54), (0xFF0C, 0xFF0C), (0xFF1B, 0xFF1B)]

/-- Signs that part the letters of one word or the digits of one number. -/
def midBothRanges : Ranges :=
  [(0x2E, 0x2E), (0x2018, 0x2019), (0x2024, 0x2024), (0xFE52, 0xFE52), (0xFF07, 0xFF07),
   (0xFF0E, 0xFF0E)]

/-- The word class Extend. -/
def extendsWord : CharSet := fun c =>
  graphemeExtend c || ofCategory .spacingMark c || isEmojiModifier c

/-- The characters of a script. -/
def ofScript (name : String) : CharSet := fun c =>
  match Script.ofName? name with
  | some s => s.ranges.holds c
  | none => false

/-- The word class Katakana. -/
def isWordKatakana : CharSet := fun c =>
  ofScript "kana" c ||
    Ranges.holds [(0x3031, 0x3035), (0x309B, 0x309C), (0x30A0, 0x30A0), (0x30FC, 0x30FC),
      (0xFF70, 0xFF70)] c

/-- The word class Hebrew_Letter. -/
def isHebrewLetter : CharSet := fun c => ofScript "hebr" c && ofCategory .otherLetter c

/-- The word class ALetter. -/
def isWordLetter : CharSet := fun c =>
  wordLetterRanges.holds c ||
    (isEstablished c && isAlphabetic c &&
      !(ideographicRanges.holds c || isWordKatakana c || complexRanges.holds c ||
        ofScript "hira" c || extendsWord c || isHebrewLetter c))

/-- Marks before a number that count as one of its digits. -/
def isNumberMark (c : Char) : Bool := prependedRanges.holds c && c ≠ '\u070f'

/-- Digits of words and sentences. -/
def isBreakDigit (c : Char) : Bool :=
  ofCategory .decimalDigit c || c = '\u066b' || isNumberMark c

/-- The classes of words with their names. -/
def wordBreaks : List (List String × CharSet) :=
  [(["cr"], (· = '\r')),
   (["lf"], (· = '\n')),
   (["nl", "newline"], fun c => c = '\x0b' || c = '\x0c' || isSeparator c),
   (["extend"], extendsWord),
   (["zwj"], (· = '\u200d')),
   (["ri", "regionalindicator"], isRegionalIndicator),
   (["fo", "format"], fun c => ofCategory .format c &&
     !(c = '\u200b' || isJoiner c || graphemeExtend c || prependedRanges.holds c)),
   (["ka", "katakana"], isWordKatakana),
   (["hl", "hebrewletter"], isHebrewLetter),
   (["le", "aletter"], isWordLetter),
   (["sq", "singlequote"], (· = '\'')),
   (["dq", "doublequote"], (· = '"')),
   (["mb", "midnumlet"], midBothRanges.holds),
   (["ml", "midletter"], midLetterRanges.holds),
   (["mn", "midnum"], midNumberRanges.holds),
   (["nu", "numeric"], isBreakDigit),
   (["ex", "extendnumlet"], fun c => ofCategory .connector c || c = '\u202f'),
   (["wsegspace"], fun c => ofCategory .space c &&
     !(c = '\u00a0' || c = '\u2007' || c = '\u202f'))]

/-! ## Sentences -/

/-- Signs after which a sentence goes on. -/
def sentenceContinueRanges : Ranges :=
  [(0x2C, 0x2D), (0x3A, 0x3B), (0x37E, 0x37E), (0x55D, 0x55D), (0x60C, 0x60D), (0x7F8, 0x7F8),
   (0x1802, 0x1802), (0x1808, 0x1808), (0x2013, 0x2014), (0x3001, 0x3001), (0xFE10, 0xFE11),
   (0xFE13, 0xFE14), (0xFE31, 0xFE32), (0xFE50, 0xFE51), (0xFE54, 0xFE55), (0xFE58, 0xFE58),
   (0xFE63, 0xFE63), (0xFF0C, 0xFF0D), (0xFF1A, 0xFF1B), (0xFF64, 0xFF64)]

/-- Quotation marks besides those of the categories Pi and Pf. -/
def closeRanges : Ranges :=
  [(0x22, 0x22), (0x27, 0x27), (0x275B, 0x2760), (0x2E00, 0x2E01), (0x2E06, 0x2E08),
   (0x2E0B, 0x2E0B), (0x1F676, 0x1F678)]

/-- The sentence class ATerm: full stops, which need not end a sentence. -/
def isFullStop (c : Char) : Bool := c ∈ ['.', '\u2024', '\ufe52', '\uff0e']

/-- The sentence class Extend. -/
def extendsSentence : CharSet := fun c =>
  graphemeExtend c || ofCategory .spacingMark c || c = '\u200d'

/-- The sentence class Lower. -/
def isSentenceSmall : CharSet := fun c =>
  lowercase c && !graphemeExtend c && !georgianRanges.holds c

/-- The sentence class Upper: Georgian capitals are written in whole words only. -/
def isSentenceCapital : CharSet := fun c =>
  (uppercase c || ofCategory .titleLetter c) &&
    !Ranges.holds [(0x1C90, 0x1CBA), (0x1CBD, 0x1CBF)] c

/-- The classes of sentences with their names. -/
def sentenceBreaks : List (List String × CharSet) :=
  [(["cr"], (· = '\r')),
   (["lf"], (· = '\n')),
   (["ex", "extend"], extendsSentence),
   (["se", "sep"], isSeparator),
   (["fo", "format"], fun c => ofCategory .format c &&
     !(isJoiner c || graphemeExtend c || isNumberMark c)),
   (["sp"], fun c => isBlank c && !(isSeparator c || c = '\r' || c = '\n')),
   (["lo", "lower"], isSentenceSmall),
   (["up", "upper"], isSentenceCapital),
   (["le", "oletter"], fun c => c = '\u05f3' ||
     (isEstablished c && isAlphabetic c &&
       !(isSentenceSmall c || isSentenceCapital c || extendsSentence c))),
   (["nu", "numeric"], fun c => isBreakDigit c || c = '\u066c'),
   (["at", "aterm"], isFullStop),
   (["sc", "scontinue"], sentenceContinueRanges.holds),
   (["st", "sterm"], fun c => sentenceTerminalRanges.holds c && !isFullStop c),
   (["cl", "close"], fun c => closeRanges.holds c ||
     ofCategories [.opening, .closing, .initialQuote, .finalQuote] c)]

end RowTemplate.Pattern
