/-!
# Hexadecimal numerals

Reading numerals to the base sixteen, in either case of their letters.
-/

namespace RegexTemplate.Text.Hex

/-- The value of a hexadecimal digit. -/
def digit? (c : Char) : Option Nat :=
  if '0' ≤ c ∧ c ≤ '9' then some (c.toNat - '0'.toNat)
  else if 'a' ≤ c ∧ c ≤ 'f' then some (c.toNat - 'a'.toNat + 10)
  else if 'A' ≤ c ∧ c ≤ 'F' then some (c.toNat - 'A'.toNat + 10)
  else none

/-- Whether a character is a hexadecimal digit. -/
def isDigit (c : Char) : Bool := (digit? c).isSome

/-- The number that a row of hexadecimal digits stands for. -/
def value (digits : List Char) : Nat :=
  digits.foldl (fun n c => 16 * n + (digit? c).getD 0) 0

/-- The character with a given code point, unless the number is that of a surrogate or too large. -/
def char? (n : Nat) : Option Char :=
  if h : n.isValidChar then some (Char.ofNatAux n h) else none

/-- Digits in the base sixteen, with small letters. -/
def ofNat (n : Nat) : String := String.ofList (Nat.toDigits 16 n)

end RegexTemplate.Text.Hex
