import SourcePrep.Unicode.Binary
import SourcePrep.Unicode.Script

/-!
# Text segmentation

The classes of characters that say where a text may be parted into characters as a reader sees them,
into words and into sentences.
-/

set_option autoImplicit false

namespace SourcePrep.Unicode.Segmentation

open Category Binary

/-- The first syllable of each block of Hangul syllables that differ in how they end. -/
def openSyllables : RangeTable :=
  ⟨(Array.range 399).map fun i => (0xAC00 + 28 * i, 0xAC00 + 28 * i)⟩

/-- Characters that extend the one before them. -/
def graphemeExtension : RangeTable := graphemeExtend ∪ emojiModifier

/-- Characters that no other is joined to. -/
def graphemeControl : RangeTable :=
  (lineSeparator ∪ paragraphSeparator ∪ control ∪ format ∪
      (unassigned ∩ defaultIgnorableCodePoint)) \
    (graphemeExtension ∪ prependedConcatenationMark ∪ .ofText "A D 200D")

/-- Spacing marks that are not joined to the character before them. -/
def standaloneMark : RangeTable := .ofText
  "102B-102C 1038 1062-1064 1067-106D 1083 1087-108C 108F 109A-109C 1A61 1A63-1A64 AA7B AA7D
11720-11721"

/-- Marks that are joined to the character before them. -/
def graphemeSpacingMark : RangeTable :=
  ((spacingMark \ graphemeExtension) \ standaloneMark) ∪ .ofText "E33 EB3"

/-- The classes of characters as a reader sees them. -/
def graphemeClasses : List (List String × RangeTable) :=
  [(["cn", "control"], graphemeControl),
    (["cr"], .ofText "D"),
    (["ex", "extend"], graphemeExtension),
    (["l"], .ofText "1100-115F A960-A97C"),
    (["lf"], .ofText "A"),
    (["lv"], openSyllables),
    (["lvt"], .ofText "AC00-D7A3" \ openSyllables),
    (["pp", "prepend"], prependedConcatenationMark ∪
      .ofText "D4E 111C2-111C3 113D1 1193F 11941 11A3A 11A84-11A89 11D46 11F02"),
    (["ri", "regionalindicator"], regionalIndicator),
    (["sm", "spacingmark"], graphemeSpacingMark),
    (["t"], .ofText "11A8-11FF D7CB-D7FB"),
    (["v"], .ofText "1160-11A7 D7B0-D7C6 16D63 16D67-16D6A"),
    (["zwj"], .ofText "200D")]

/-- Characters that go with the one before them in a word. -/
def wordExtension : RangeTable := graphemeExtend ∪ spacingMark ∪ emojiModifier

/-- Letters of Hebrew. -/
def hebrewLetter : RangeTable := Script.hebrew ∩ otherLetter

/-- Characters that make up words of Katakana. -/
def wordKatakana : RangeTable := Script.katakana ∪ .ofText "3031-3035 309B-309C 30A0 30FC FF70"

/-- Characters of scripts that are written without blanks between words. -/
def unspaced : RangeTable :=
  Script.thai ∪ Script.lao ∪ Script.myanmar ∪ Script.khmer ∪
    Script.newTaiLue ∪ Script.taiLe ∪ Script.taiTham ∪ Script.taiViet ∪ Script.ahom

/-- Characters that count as letters within words. -/
def letterLike : RangeTable := .ofText
  "2C2-2C5 2D2-2D7 2DE-2DF 2E5-2EB 2ED 2EF-2FF 55A-55C 55E 58A 5F3 70F A708-A716 A720-A721
A789-A78A AB5B"

/-- Letters of words in spaced writing. -/
def wordLetter : RangeTable :=
  (alphabetic \
      (ideographic ∪ wordKatakana ∪ hebrewLetter ∪ Script.hiragana ∪ wordExtension ∪ unspaced)) ∪
    letterLike

/-- The classes of characters in words. -/
def wordClasses : List (List String × RangeTable) :=
  [(["cr"], .ofText "D"),
    (["dq", "doublequote"], .ofText "22"),
    (["ex", "extendnumlet"], .ofText "5F 202F 203F-2040 2054 FE33-FE34 FE4D-FE4F FF3F"),
    (["extend"], wordExtension),
    (["fo", "format"],
      (format \ (prependedConcatenationMark ∪ wordExtension)) \ .ofText "200B-200D"),
    (["hl", "hebrewletter"], hebrewLetter),
    (["ka", "katakana"], wordKatakana),
    (["le", "aletter"], wordLetter),
    (["lf"], .ofText "A"),
    (["mb", "midnumlet"], .ofText "2E 2018-2019 2024 FE52 FF07 FF0E"),
    (["ml", "midletter"], .ofText "3A B7 387 55F 5F4 2027 FE13 FE55 FF1A"),
    (["mn", "midnum"], .ofText "2C 3B 37E 589 60C-60D 66C 7F8 2044 FE10 FE14 FE50 FE54 FF0C FF1B"),
    (["nl", "newline"], .ofText "B-C 85 2028-2029"),
    (["nu", "numeric"],
      (decimalNumber ∪ prependedConcatenationMark ∪ .ofText "66B") \ .ofText "70F"),
    (["ri", "regionalindicator"], regionalIndicator),
    (["sq", "singlequote"], .ofText "27"),
    (["wsegspace"], .ofText "20 1680 2000-2006 2008-200A 205F 3000"),
    (["zwj"], .ofText "200D")]

/-- Characters that go with the one before them in a sentence. -/
def sentenceExtension : RangeTable := graphemeExtend ∪ spacingMark ∪ .ofText "200D"

/-- Lower-case characters; Georgian has letters of one case only. -/
def sentenceLower : RangeTable := (lowercase \ sentenceExtension) \ .ofText "10D0-10FA 10FD-10FF"

/-- Upper-case characters; Georgian has letters of one case only. -/
def sentenceUpper : RangeTable := (uppercase ∪ titlecaseLetter) \ .ofText "1C90-1CBA 1CBD-1CBF"

/-- Letters without case. -/
def sentenceLetter : RangeTable :=
  (alphabetic \ (sentenceLower ∪ sentenceUpper ∪ sentenceExtension)) ∪ .ofText "5F3 70F"

/-- Full stops, which may also end an abbreviation. -/
def fullStop : RangeTable := .ofText "2E 2024 FE52 FF0E"

/-- The classes of characters in sentences. -/
def sentenceClasses : List (List String × RangeTable) :=
  [(["at", "aterm"], fullStop),
    (["cl", "close"], openPunctuation ∪ closePunctuation ∪ initialPunctuation ∪ finalPunctuation ∪
      .ofText "22 27 275B-2760 2E00-2E01 2E06-2E08 2E0B 1F676-1F678"),
    (["cr"], .ofText "D"),
    (["ex", "extend"], sentenceExtension),
    (["fo", "format"],
      (format \ (prependedConcatenationMark ∪ sentenceExtension)) \ .ofText "200C-200D"),
    (["le", "oletter"], sentenceLetter),
    (["lf"], .ofText "A"),
    (["lo", "lower"], sentenceLower),
    (["nu", "numeric"],
      (decimalNumber ∪ prependedConcatenationMark ∪ .ofText "66B-66C") \ .ofText "70F"),
    (["sc", "scontinue"], .ofText
      "2C-2D 3A 55D 60C-60D 7F8 1802 1808 2013-2014 3001 FE10-FE11 FE13 FE31-FE32 FE50-FE51 FE55
FE58 FE63 FF0C-FF0D FF1A FF64"),
    (["se", "sep"], .ofText "85 2028-2029"),
    (["sp"], whiteSpace \ .ofText "A D 85 2028-2029"),
    (["st", "sterm"], sentenceTerminal \ fullStop),
    (["up", "upper"], sentenceUpper)]

end SourcePrep.Unicode.Segmentation
