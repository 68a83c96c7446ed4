import RegexTemplate.Unicode.Property.Derived
import RegexTemplate.Unicode.Script

/-!
# Boundaries in a text

A text is divided into graphemes, words and sentences by the classes of its characters (Unicode
character database, version 16).  Each class is given by its rule, and what a rule lists one by one
is a table next to it.  Characters outside all classes of a division belong to none here.
-/

namespace RegexTemplate.Unicode.Segmentation

/-- One class of a division: the names that it goes by, and its members. -/
structure Class where
  names : List String
  members : CharSet

/-- A class whose members a text lists. -/
def Class.ofText (names : List String) (text : String) : Class :=
  ⟨names, .ofRanges (Ranges.ofText text)⟩

/-- The members of the class with a given name. -/
def find? (classes : List Class) (name : String) : Option CharSet :=
  (classes.find? (·.names.contains name)).map (·.members)

/-- The joiner without width. -/
def zeroWidthJoiner : Ranges := Ranges.ofText "200d"

/-- The separator without width. -/
def zeroWidthNonJoiner : Ranges := Ranges.ofText "200c"

/-- The space without width. -/
def zeroWidthSpace : Ranges := Ranges.ofText "200b"

/-- Tags that spell out a flag. -/
def tag : Ranges := Ranges.ofText "e0020-e007f"

/-- Format characters without those that divisions treat in another way. -/
def plainFormat : CharSet :=
  CharSet.diff (.ofRanges Category.format)
    (.ofRanges (zeroWidthJoiner ++ zeroWidthNonJoiner ++ tag))

/-! ## Graphemes -/

/-- Unassigned code points that would not be shown. -/
def ignorableGap : CharSet := Property.defaultIgnorable.diff (.ofRanges Category.assigned)

/-- Class `Control`: what stands alone. -/
def graphemeControl : CharSet :=
  CharSet.diff
    (.ofRanges (Category.control ++ Category.lineSeparator ++ Category.paragraphSeparator ++
      plainFormat.ranges ++ ignorableGap.ranges))
    (.ofRanges (Ranges.ofText "a d" ++ Property.prependedConcatenationMark))

/-- Class `Extend`: what belongs to the character before. -/
def graphemeExtend : CharSet :=
  Property.graphemeExtend.union (.ofRanges Property.emojiModifier)

/-- Consonants that are written before the one behind them. -/
def prependedConsonant : Ranges :=
  Ranges.ofLines
    ["d4e 111c2-111c3 113d1 1193f 11941 11a3a 11a84-11a89 11d46 11f02"]

/-- Marks that take space and stand for themselves. -/
def separateVowel : Ranges :=
  Ranges.ofLines
    ["102b-102c 1038 1062-1064 1067-106d 1083 1087-108c 108f 109a-109c 1a61 1a63-1a64 aa7b aa7d",
     "11720-11721"]

/-- Letters that end the vowel of the consonant before. -/
def vowelOfTwoLetters : Ranges := Ranges.ofText "e33 eb3"

/-- Class `SpacingMark`: what takes space and belongs to the character before. -/
def graphemeSpacingMark : CharSet :=
  CharSet.union (.ofRanges vowelOfTwoLetters)
    (CharSet.diff (.ofRanges Category.spacingMark)
      (.ofRanges (Property.graphemeExtend.ranges ++ separateVowel)))

/-- Syllables of Hangul without a final consonant, one in every 28 syllables. -/
def openSyllable : Ranges :=
  (List.range 399).map fun i => (0xac00 + 28 * i, 0xac00 + 28 * i)

/-- All syllables of Hangul. -/
def syllable : Ranges := [(0xac00, 0xd7a3)]

/-- The classes of graphemes. -/
def graphemeClasses : List Class :=
  [⟨["control", "cn"], graphemeControl⟩,
   .ofText ["cr"] "d",
   .ofText ["lf"] "a",
   ⟨["extend", "ex"], graphemeExtend⟩,
   ⟨["prepend", "pp"],
     .ofRanges (Property.prependedConcatenationMark ++ prependedConsonant)⟩,
   ⟨["spacingmark", "sm"], graphemeSpacingMark⟩,
   ⟨["regionalindicator", "ri"], .ofRanges Property.regionalIndicator⟩,
   ⟨["zwj"], .ofRanges zeroWidthJoiner⟩,
   .ofText ["l"] "1100-115f a960-a97c",
   .ofText ["v"] "1160-11a7 d7b0-d7c6 16d63 16d67-16d6a",
   .ofText ["t"] "11a8-11ff d7cb-d7fb",
   ⟨["lv"], .ofRanges openSyllable⟩,
   ⟨["lvt"], CharSet.diff (.ofRanges syllable) (.ofRanges openSyllable)⟩]

/-! ## Words -/

/-- Signs that are used with the letters of Katakana. -/
def sharedKana : Ranges := Ranges.ofText "3031-3035 309b-309c 30a0 30fc ff70"

/-- Class `Katakana`. -/
def wordKatakana : CharSet :=
  .ofRanges (Script.members "katakana" ++ sharedKana)

/-- Class `Hebrew_Letter`: letters of the script that have no case. -/
def hebrewLetter : CharSet :=
  CharSet.inter (.ofRanges (Script.members "hebrew")) (.ofRanges Category.otherLetter)

/-- Class `Extend`: what belongs to the character before. -/
def wordExtend : CharSet :=
  CharSet.diff
    (.ofRanges (graphemeExtend.ranges ++ Category.spacingMark)) (.ofRanges zeroWidthJoiner)

/-- Signs that stand inside words like letters. -/
def wordSign : Ranges :=
  Ranges.ofLines
    ["2c2-2c5 2d2-2d7 2de-2df 2e5-2eb 2ed 2ef-2ff 55a-55c 55e 58a 5f3 70f a708-a716 a720-a721",
     "a789-a78a ab5b"]

/-- Letters of scripts that are written without spaces between words. -/
def unspacedLetter : Ranges :=
  Ranges.ofLines
    ["e01-e30 e32-e33 e40-e46 e81-e82 e84 e86-e8a e8c-ea3 ea5 ea7-eb0 eb2-eb3 ebd ec0-ec4 ec6",
     "edc-edf 1000-102a 103f 1050-1055 105a-105d 1061 1065-1066 106e-1070 1075-1081 108e",
     "1780-17b3 17d7 17dc 1950-196d 1970-1974 1980-19ab 19b0-19c9 1a20-1a54 1aa7 a9e0-a9e4",
     "a9e6-a9ef a9fa-a9fe aa60-aa76 aa7a aa7e-aaaf aab1 aab5-aab6 aab9-aabd aac0 aac2 aadb-aadd",
     "11700-1171a 11740-11746"]

/-- Class `ALetter`: what words are made of in scripts that put spaces between them. -/
def wordLetter : CharSet :=
  CharSet.union (.ofRanges wordSign)
    (Property.alphabetic.diff
      (.ofRanges (Property.ideographic ++ Script.members "hiragana" ++ wordKatakana.ranges ++
        hebrewLetter.ranges ++ wordExtend.ranges ++ unspacedLetter)))

/-- Signs that stand inside or before numbers like digits. -/
def numberSign : Ranges := Ranges.ofText "600-605 66b 6dd 890-891 8e2 19da 110bd 110cd"

/-- The classes of words. -/
def wordClasses : List Class :=
  [⟨["aletter", "le"], wordLetter⟩,
   .ofText ["cr"] "d",
   .ofText ["lf"] "a",
   .ofText ["newline", "nl"] "b-c 85 2028-2029",
   .ofText ["doublequote", "dq"] "22",
   .ofText ["singlequote", "sq"] "27",
   ⟨["extend"], wordExtend⟩,
   ⟨["extendnumlet", "ex"],
     .ofRanges (Category.connectorPunctuation ++ Ranges.ofText "202f")⟩,
   ⟨["format", "fo"],
     plainFormat.diff (.ofRanges (zeroWidthSpace ++ Property.prependedConcatenationMark))⟩,
   ⟨["hebrewletter", "hl"], hebrewLetter⟩,
   ⟨["katakana", "ka"], wordKatakana⟩,
   .ofText ["midletter", "ml"] "3a b7 387 55f 5f4 2027 fe13 fe55 ff1a",
   .ofText ["midnum", "mn"] "2c 3b 37e 589 60c-60d 66c 7f8 2044 fe50 fe54 ff0c ff1b",
   .ofText ["midnumlet", "mb"] "2e 2018-2019 2024 fe52 ff07 ff0e",
   ⟨["numeric", "nu"], .ofRanges (Category.decimalNumber ++ numberSign)⟩,
   ⟨["regionalindicator", "ri"], .ofRanges Property.regionalIndicator⟩,
   .ofText ["wsegspace"] "20 1680 2000-2006 2008-200a 205f 3000",
   ⟨["zwj"], .ofRanges zeroWidthJoiner⟩]

/-! ## Sentences -/

/-- Class `Extend`: what belongs to the character before. -/
def sentenceExtend : CharSet :=
  .ofRanges (Property.graphemeExtend.ranges ++ Category.spacingMark ++ zeroWidthJoiner)

/-- Letters in lower case that sentences treat as letters without case. -/
def caselessGeorgian : Ranges := Ranges.ofText "10d0-10fa 10fd-10ff"

/-- Letters in upper case that sentences treat as letters without case. -/
def capitalGeorgian : Ranges := Ranges.ofText "1c90-1cba 1cbd-1cbf"

/-- Class `Lower`. -/
def sentenceLower : CharSet :=
  Property.lowercase.diff (.ofRanges (Property.graphemeExtend.ranges ++ caselessGeorgian))

/-- Class `Upper`. -/
def sentenceUpper : CharSet :=
  CharSet.diff (.ofRanges (Property.uppercase.ranges ++ Category.titlecaseLetter))
    (.ofRanges capitalGeorgian)

/-- Class `OLetter`: the letters that have no case. -/
def sentenceLetter : CharSet :=
  CharSet.diff (.ofRanges (Property.alphabetic.ranges ++ Ranges.ofText "5f3"))
    (.ofRanges (sentenceLower.ranges ++ sentenceUpper.ranges ++ sentenceExtend.ranges))

/-- Ends of lines and paragraphs. -/
def sentenceSeparator : Ranges := Ranges.ofText "85 2028-2029"

/-- Class `ATerm`: full stops, which may also end an abbreviation. -/
def sentenceStop : Ranges := Ranges.ofText "2e 2024 fe52 ff0e"

/-- Ornaments that quote a text. -/
def ornament : Ranges := Ranges.ofText "275b-2760 2e00-2e01 2e06-2e08 2e0b 1f676-1f678"

/-- Class `Close`: quotation marks and brackets. -/
def sentenceClose : CharSet :=
  CharSet.diff
    (.ofRanges (Category.openPunctuation ++ Category.closePunctuation ++
      Category.initialPunctuation ++ Category.finalPunctuation ++ Property.quotationMark ++
      ornament))
    (.ofRanges (Ranges.ofText "ff02 ff07"))

/-- Class `SContinue`: punctuation behind which a sentence goes on. -/
def sentenceContinue : Ranges :=
  Ranges.ofLines
    ["2c-2d 3a-3b 37e 55d 60c-60d 7f8 1802 1808 2013-2014 3001 fe10-fe11 fe13-fe14 fe31-fe32",
     "fe50-fe51 fe54-fe55 fe58 fe63 ff0c-ff0d ff1a-ff1b ff64"]

/-- The classes of sentences. -/
def sentenceClasses : List Class :=
  [⟨["aterm", "at"], .ofRanges sentenceStop⟩,
   .ofText ["cr"] "d",
   .ofText ["lf"] "a",
   ⟨["close", "cl"], sentenceClose⟩,
   ⟨["extend", "ex"], sentenceExtend⟩,
   ⟨["format", "fo"],
     (plainFormat.diff (.ofRanges Property.prependedConcatenationMark)).union
       (.ofRanges (Ranges.ofText "70f"))⟩,
   ⟨["lower", "lo"], sentenceLower⟩,
   ⟨["numeric", "nu"],
     .ofRanges (Category.decimalNumber ++ numberSign ++ Ranges.ofText "66c")⟩,
   ⟨["oletter", "le"], sentenceLetter⟩,
   ⟨["scontinue", "sc"], .ofRanges sentenceContinue⟩,
   ⟨["sterm", "st"],
     CharSet.diff (.ofRanges Property.sentenceTerminal) (.ofRanges sentenceStop)⟩,
   ⟨["sep", "se"], .ofRanges sentenceSeparator⟩,
   ⟨["sp"],
     CharSet.diff (.ofRanges Property.whiteSpace)
       (.ofRanges (Ranges.ofText "a d" ++ sentenceSeparator))⟩,
   ⟨["upper", "up"], sentenceUpper⟩]

end RegexTemplate.Unicode.Segmentation
