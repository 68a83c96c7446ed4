/-!
# Blank characters

The blanks are the characters with the property `White_Space` of the Unicode character database.
They may stand around the parts of a marker, between the parts of a spaced-out regular expression
and around the numbers of a counted repetition.
-/

namespace RegexTemplate.Text

/-- Whether a character has the property `White_Space`. -/
def isBlank (c : Char) : Bool :=
  (9 ≤ c.toNat && c.toNat ≤ 13) || c.toNat == 0x20 || c.toNat == 0x85 || c.toNat == 0xa0 ||
    c.toNat == 0x1680 || (0x2000 ≤ c.toNat && c.toNat ≤ 0x200a) || c.toNat == 0x2028 ||
    c.toNat == 0x2029 || c.toNat == 0x202f || c.toNat == 0x205f || c.toNat == 0x3000

/-- A text without the blanks in front. -/
def skipBlanks (cs : List Char) : List Char := cs.dropWhile isBlank

/-- Skipping blanks never makes a text longer. -/
theorem length_skipBlanks_le (cs : List Char) : (skipBlanks cs).length ≤ cs.length :=
  (List.dropWhile_sublist _).length_le

end RegexTemplate.Text
