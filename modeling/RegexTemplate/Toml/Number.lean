import RegexTemplate.Text.Hex
import RegexTemplate.Toml.Tree

/-!
# Numbers

Whole numbers are written to the base ten with an optional sign, or to the bases sixteen, eight and
two behind `0x`, `0o` and `0b`; they have 64 bits.  Floating-point numbers have a fraction or an
exponent.  One underscore may stand between two digits.
-/

namespace RegexTemplate.Toml

/-- The digits of a row in which underscores stand between digits only. -/
def ungrouped? (isDigit : Char → Bool) : List Char → Option (List Char)
  | [] => none
  | [c] => if isDigit c then some [c] else none
  | c :: '_' :: rest =>
    if isDigit c then (ungrouped? isDigit rest).map (c :: ·) else none
  | c :: rest =>
    if isDigit c then (ungrouped? isDigit rest).map (c :: ·) else none

/-- Whether a whole number has at most 64 bits. -/
def fits (n : Int) : Bool := -Int.pow 2 63 ≤ n && n < Int.pow 2 63

/-- The floating-point number that is nearest to a decimal; far beyond the largest one it is
infinite. -/
def nearestFloat (mantissa : Nat) (power : Int) : Float :=
  let magnitude := (Nat.toDigits 10 mantissa).length + power
  if mantissa = 0 ∨ magnitude < -400 then 0.0
  else if 400 < magnitude then 1.0 / 0.0
  else .ofScientific mantissa (power < 0) power.natAbs

namespace Cursor

/-- Reads digits, among which underscores may stand. -/
def readDigits (cursor : Cursor) (isDigit : Char → Bool) :
    Except SyntaxError (List Char × Cursor) := do
  let (row, behind) := cursor.takeWhile fun c => isDigit c || c == '_'
  let digits ← cursor.orFail .invalidNumber (ungrouped? isDigit row)
  return (digits, behind)

/-- Reads a whole number to a base that a letter behind the zero has named. -/
def readBased (cursor : Cursor) (base : Nat) (isDigit : Char → Bool) :
    Except SyntaxError (Value × Cursor) := do
  let (digits, behind) ← cursor.readDigits isDigit
  let n : Nat := digits.foldl (fun n c => base * n + (Text.Hex.digit? c).getD 0) 0
  if fits n then return (.integer n, behind) else cursor.fail .numberTooLarge

/-- Reads the fraction of a number, if there is one. -/
def readFractionDigits (cursor : Cursor) : Except SyntaxError (List Char × Cursor) :=
  match cursor.take? '.' with
  | some cursor => cursor.readDigits Char.isDigit
  | none => .ok ([], cursor)

/-- Reads the exponent of a number, if there is one. -/
def readExponent (cursor : Cursor) : Except SyntaxError (Option Int × Cursor) :=
  match cursor.take? 'e' <|> cursor.take? 'E' with
  | none => .ok (none, cursor)
  | some cursor => do
    let (negative, cursor) :=
      match cursor.take? '-', cursor.take? '+' with
      | some cursor, _ => (true, cursor)
      | none, some cursor => (false, cursor)
      | none, none => (false, cursor)
    let (digits, cursor) ← cursor.readDigits Char.isDigit
    let n : Int := (decimalValue digits : Nat)
    return (some (if negative then -n else n), cursor)

/-- Reads a number to the base ten behind its sign. -/
def readDecimal (cursor : Cursor) (negative : Bool) : Except SyntaxError (Value × Cursor) := do
  let (whole, behind) ← cursor.readDigits Char.isDigit
  if whole.head? == some '0' && behind.offset ≠ cursor.offset + 1 then
    cursor.fail .invalidNumber
  let (fraction, behind) ← behind.readFractionDigits
  let (exponent, behind) ← behind.readExponent
  if fraction.isEmpty && exponent.isNone then
    let n : Int := (decimalValue whole : Nat)
    let n := if negative then -n else n
    if fits n then return (.integer n, behind) else cursor.fail .numberTooLarge
  else
    let x := nearestFloat (decimalValue (whole ++ fraction)) (exponent.getD 0 - fraction.length)
    let x := if negative then -x else x
    -- a number may overflow to minus infinity only
    if x == 1.0 / 0.0 then cursor.fail .numberTooLarge else return (.float x, behind)

/-- Reads a number behind its sign. -/
def readUnsigned (cursor : Cursor) (negative : Bool) : Except SyntaxError (Value × Cursor) :=
  let signed := fun (x : Float) => if negative then -x else x
  match cursor.rest with
  | 'i' :: 'n' :: 'f' :: _ => .ok (.float (signed (1.0 / 0.0)), cursor.drop 3)
  | 'n' :: 'a' :: 'n' :: _ => .ok (.float (signed (0.0 / 0.0)), cursor.drop 3)
  | _ => cursor.readDecimal negative

/-- Reads a number. -/
def readNumber (cursor : Cursor) : Except SyntaxError (Value × Cursor) :=
  match cursor.rest with
  | '0' :: 'x' :: _ => (cursor.drop 2).readBased 16 Text.Hex.isDigit
  | '0' :: 'o' :: _ => (cursor.drop 2).readBased 8 fun c => '0' ≤ c && c ≤ '7'
  | '0' :: 'b' :: _ => (cursor.drop 2).readBased 2 fun c => c == '0' || c == '1'
  | '+' :: _ => (cursor.drop 1).readUnsigned false
  | '-' :: _ => (cursor.drop 1).readUnsigned true
  | _ => cursor.readUnsigned false

end Cursor

end RegexTemplate.Toml
