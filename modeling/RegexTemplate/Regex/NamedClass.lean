import RegexTemplate.Unicode.Newest

/-!
# Named classes of characters

The classes that a regular expression has short names for: digits, blanks and word characters, and
the classes of POSIX.  The characters of a group's name are a class of their own.
-/

namespace RegexTemplate.Regex.NamedClass

open Unicode (Ranges)

/-- The classes that one letter behind a backslash names. -/
inductive Shorthand where
  | digit
  | blank
  | word
deriving DecidableEq, Repr

/-- Decimal digits. -/
def digits : CharSet := .ofRanges Unicode.Category.decimalNumber

/-- Blanks. -/
def blanks : CharSet := .ofRanges Unicode.Property.whiteSpace

/-- Word characters: alphabetic ones, marks, decimal digits, connecting punctuation and join
controls. -/
def wordChars : CharSet :=
  .ofRanges (Unicode.Property.alphabetic.ranges ++ Unicode.Category.mark ++
    Unicode.Category.decimalNumber ++ Unicode.Category.connectorPunctuation ++
    Unicode.Property.joinControl)

/-- Decimal digits of ASCII. -/
def asciiDigits : CharSet := .ofRanges (Ranges.ofText "30-39")

/-- Blanks of ASCII. -/
def asciiBlanks : CharSet := .ofRanges (Ranges.ofText "9-d 20")

/-- Word characters of ASCII. -/
def asciiWordChars : CharSet := .ofRanges (Ranges.ofText "30-39 41-5a 5f 61-7a")

/-- The members of a shorthand class, in Unicode or in ASCII. -/
def Shorthand.members (unicode : Bool) : Shorthand → CharSet
  | .digit => if unicode then digits else asciiDigits
  | .blank => if unicode then blanks else asciiBlanks
  | .word => if unicode then wordChars else asciiWordChars

/-- The class of POSIX with a given name. -/
def posix? (name : String) : Option CharSet :=
  let ranges? : Option String :=
    match name with
    | "alnum" => some "30-39 41-5a 61-7a"
    | "alpha" => some "41-5a 61-7a"
    | "ascii" => some "0-7f"
    | "blank" => some "9 20"
    | "cntrl" => some "0-1f 7f"
    | "digit" => some "30-39"
    | "graph" => some "21-7e"
    | "lower" => some "61-7a"
    | "print" => some "20-7e"
    | "punct" => some "21-2f 3a-40 5b-60 7b-7e"
    | "space" => some "9-d 20"
    | "upper" => some "41-5a"
    | "word" => some "30-39 41-5a 5f 61-7a"
    | "xdigit" => some "30-39 41-46 61-66"
    | _ => none
  ranges?.map fun text => .ofRanges (Ranges.ofText text)

/-- Whether a character may stand in the name of a group. -/
def isGroupNameChar (first : Bool) (c : Char) : Bool :=
  c == '_' || Unicode.Newest.alphabetic.has c ||
    (!first && (c == '.' || c == '[' || c == ']' || Unicode.Newest.number.has c))

end RegexTemplate.Regex.NamedClass
