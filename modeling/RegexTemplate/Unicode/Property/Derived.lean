import RegexTemplate.CharSet
import RegexTemplate.Unicode.Category
import RegexTemplate.Unicode.Property.Basic

/-!
# Properties that follow from others

Most properties of the Unicode character database (version 16) are made of categories and of the
properties that stand on their own.  Each is given by its rule; where the rule has exceptions, they
are a table next to it.
-/

namespace RegexTemplate.Unicode.Property

/-! ## Letters and case -/

/-- Property `Lowercase`. -/
def lowercase : CharSet := .ofRanges (Category.lowercaseLetter ++ otherLowercase)

/-- Property `Uppercase`. -/
def uppercase : CharSet := .ofRanges (Category.uppercaseLetter ++ otherUppercase)

/-- Property `Cased`: the characters in lower case, in upper case or in title case. -/
def cased : CharSet :=
  .ofRanges (lowercase.ranges ++ uppercase.ranges ++ Category.titlecaseLetter)

/-- Property `Alphabetic`: letters, numbers written as letters, and some signs and marks. -/
def alphabetic : CharSet :=
  .ofRanges (Category.letter ++ Category.letterNumber ++ otherLowercase ++ otherUppercase ++
    otherAlphabetic)

/-- Property `Math`. -/
def math : CharSet := .ofRanges (Category.mathSymbol ++ otherMath)

/-- Punctuation that may stand inside a word. -/
def innerPunctuation : Ranges :=
  Ranges.ofLines
    ["27 2e 3a b7 387 55f 5f4 2018-2019 2024 2027 fe13 fe52 fe55 ff07 ff0e ff1a"]

/-- Property `Case_Ignorable`: what is passed over where the case of the neighbours matters. -/
def caseIgnorable : CharSet :=
  .ofRanges (Category.nonspacingMark ++ Category.enclosingMark ++ Category.format ++
    Category.modifierLetter ++ Category.modifierSymbol ++ innerPunctuation)

/-- Characters in upper case that have none in lower case. -/
def withoutLowercase : Ranges :=
  Ranges.ofLines
    ["3d2-3d4 2102 2107 210b-210d 2110-2112 2115 2119-211d 2124 2128 212c-212d 2130-2131 2133",
     "213e-213f 2145 1d400-1d419 1d434-1d44d 1d468-1d481 1d49c 1d49e-1d49f 1d4a2 1d4a5-1d4a6",
     "1d4a9-1d4ac 1d4ae-1d4b5 1d4d0-1d4e9 1d504-1d505 1d507-1d50a 1d50d-1d514 1d516-1d51c",
     "1d538-1d539 1d53b-1d53e 1d540-1d544 1d546 1d54a-1d550 1d56c-1d585 1d5a0-1d5b9 1d5d4-1d5ed",
     "1d608-1d621 1d63c-1d655 1d670-1d689 1d6a8-1d6c0 1d6e2-1d6fa 1d71c-1d734 1d756-1d76e",
     "1d790-1d7a8 1d7ca 1f130-1f149 1f150-1f169 1f170-1f189"]

/-- Property `Changes_When_Lowercased`. -/
def changesWhenLowercased : CharSet :=
  CharSet.diff (.ofRanges (uppercase.ranges ++ Category.titlecaseLetter))
    (.ofRanges withoutLowercase)

/-- Characters in lower case that have none in upper case. -/
def withoutUppercase : Ranges :=
  Ranges.ofLines
    ["aa ba 138 18d 1aa-1ab 1ba 1be 221 234-239 255 258 25a 25d-25f 262 267 26d-26e 270 273-274",
     "276-27c 27e-27f 281 284-286 28d-291 293 295-29c 29f-2b8 2c0-2c1 2e0-2e4 37a 3fc 560 588",
     "10fc 1d00-1d78 1d7a-1d7c 1d7e-1d8d 1d8f-1dbf 1e9c-1e9d 1e9f 2071 207f 2090-209c 210a",
     "210e-210f 2113 212f 2134 2139 213c-213d 2146-2149 2c71 2c74 2c77-2c7d 2ce4 a69c-a69d",
     "a730-a731 a770-a778 a78e a795 a7af a7d3 a7d5 a7f2-a7f4 a7f8-a7fa ab30-ab52 ab54-ab5a",
     "ab5c-ab69 10780 10783-10785 10787-107b0 107b2-107ba 1d41a-1d433 1d44e-1d454 1d456-1d467",
     "1d482-1d49b 1d4b6-1d4b9 1d4bb 1d4bd-1d4c3 1d4c5-1d4cf 1d4ea-1d503 1d51e-1d537 1d552-1d56b",
     "1d586-1d59f 1d5ba-1d5d3 1d5ee-1d607 1d622-1d63b 1d656-1d66f 1d68a-1d6a5 1d6c2-1d6da",
     "1d6dc-1d6e1 1d6fc-1d714 1d716-1d71b 1d736-1d74e 1d750-1d755 1d770-1d788 1d78a-1d78f",
     "1d7aa-1d7c2 1d7c4-1d7c9 1d7cb 1df00-1df09 1df0b-1df1e 1df25-1df2a 1e030-1e06d"]

/-- Characters in title case with one in upper case. -/
def withUppercase : Ranges :=
  Ranges.ofLines
    ["1c5 1c8 1cb 1f2 1f88-1f8f 1f98-1f9f 1fa8-1faf 1fbc 1fcc 1ffc"]

/-- Property `Changes_When_Uppercased`. -/
def changesWhenUppercased : CharSet :=
  (lowercase.union (.ofRanges withUppercase)).diff (.ofRanges withoutUppercase)

/-- Characters that change in upper case but not in title case. -/
def ownTitlecase : Ranges :=
  Ranges.ofLines
    ["1c5 1c8 1cb 1f2 10d0-10fa 10fd-10ff 1f88-1f8f 1f98-1f9f 1fa8-1faf 1fbc 1fcc 1ffc"]

/-- Characters in upper case that change in title case. -/
def otherTitlecase : Ranges := Ranges.ofText "1c4 1c7 1ca 1f1"

/-- Property `Changes_When_Titlecased`. -/
def changesWhenTitlecased : CharSet :=
  (changesWhenUppercased.diff (.ofRanges ownTitlecase)).union (.ofRanges otherTitlecase)

/-- Characters that do not change in lower case but under case folding. -/
def foldedOnly : Ranges :=
  Ranges.ofLines
    ["b5 df 149 17f 345 3c2 3d0-3d1 3d5-3d6 3f0-3f1 3f5 587 13f8-13fd 1c80-1c88 1e9a-1e9b",
     "1f80-1f87 1f90-1f97 1fa0-1fa7 1fb2-1fb4 1fb7 1fc2-1fc4 1fc7 1ff2-1ff4 1ff7 ab70-abbf",
     "fb00-fb06 fb13-fb17"]

/-- Letters in upper case that case folding keeps. -/
def foldedToUppercase : Ranges := Ranges.ofText "13a0-13f5"

/-- Property `Changes_When_Casefolded`. -/
def changesWhenCasefolded : CharSet :=
  (changesWhenLowercased.union (.ofRanges foldedOnly)).diff (.ofRanges foldedToUppercase)

/-- Property `Changes_When_Casemapped`: what changes in lower, upper or title case. -/
def changesWhenCasemapped : CharSet :=
  (changesWhenLowercased.union changesWhenUppercased).union changesWhenTitlecased

/-! ## Identifiers -/

/-- What the grammar of patterns keeps for itself is no part of an identifier. -/
def patternChars : CharSet := .ofRanges (patternSyntax ++ patternWhiteSpace)

/-- Property `ID_Start`. -/
def idStart : CharSet :=
  CharSet.diff (.ofRanges (Category.letter ++ Category.letterNumber ++ otherIdStart)) patternChars

/-- Property `ID_Continue`. -/
def idContinue : CharSet :=
  CharSet.diff
    (.ofRanges (idStart.ranges ++ Category.nonspacingMark ++ Category.spacingMark ++
      Category.decimalNumber ++ Category.connectorPunctuation ++ otherIdContinue))
    patternChars

/-- Characters that a compatible normal form turns into more than an identifier. -/
def unstableInside : Ranges :=
  Ranges.ofLines
    ["37a 309b-309c fc5e-fc63 fdfa-fdfb fe70 fe72 fe74 fe76 fe78 fe7a fe7c fe7e"]

/-- Characters that a compatible normal form starts with something else. -/
def unstableStart : Ranges := Ranges.ofText "e33 eb3 ff9e-ff9f"

/-- Property `XID_Start`: the starts of identifiers that normal forms keep. -/
def xidStart : CharSet := idStart.diff (.ofRanges (unstableInside ++ unstableStart))

/-- Property `XID_Continue`: the insides of identifiers that normal forms keep. -/
def xidContinue : CharSet := idContinue.diff (.ofRanges unstableInside)

/-! ## What is shown -/

/-- The controls of annotations between lines. -/
def interlinearAnnotation : Ranges := Ranges.ofText "fff9-fffb"

/-- The controls of hieroglyphs, and the sign behind them. -/
def hieroglyphControl : Ranges := Ranges.ofText "13430-13440"

/-- Property `Default_Ignorable_Code_Point`: what is not shown where it is not supported. -/
def defaultIgnorable : CharSet :=
  CharSet.diff (.ofRanges (otherDefaultIgnorable ++ Category.format ++ variationSelector))
    (.ofRanges (whiteSpace ++ interlinearAnnotation ++ hieroglyphControl ++
      prependedConcatenationMark))

/-- Property `Grapheme_Extend`: what is drawn onto the character before. -/
def graphemeExtend : CharSet :=
  .ofRanges (Category.enclosingMark ++ Category.nonspacingMark ++ otherGraphemeExtend)

/-- Property `Grapheme_Base`: what marks are drawn onto. -/
def graphemeBase : CharSet :=
  CharSet.diff (.ofRanges Category.assigned)
    (.ofRanges (Category.control ++ Category.format ++ Category.surrogate ++ Category.privateUse ++
      Category.lineSeparator ++ Category.paragraphSeparator ++ graphemeExtend.ranges))

end RegexTemplate.Unicode.Property
