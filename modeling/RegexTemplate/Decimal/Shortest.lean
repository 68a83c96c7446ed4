/-!
# The shortest decimal of a floating-point number

A finite number is shown by the fewest decimal digits that still read back as the same number, and
among those by the digits that lie nearest to it.  A binary number is m · 2 ^ e; the decimals that
read back as it lie between the midpoints to its two neighbours, and the midpoints belong to it if m
is even.  All comparisons are made on fractions of natural numbers.
-/

namespace RegexTemplate.Decimal

/-- A positive fraction. -/
structure Fraction where
  num : Nat
  den : Nat

/-- A number times a power of a base. -/
def Fraction.scaled (n base : Nat) (power : Int) : Fraction :=
  match power with
  | .ofNat p => ⟨n * base.pow p, 1⟩
  | .negSucc p => ⟨n, base.pow (p + 1)⟩

/-- Whether one fraction lies below another. -/
def Fraction.below (a b : Fraction) : Bool := a.num * b.den < b.num * a.den

/-- A positive binary number with the fractions half-way to its neighbours. -/
structure Neighbourhood where
  value : Fraction
  low : Fraction
  high : Fraction
  /-- Whether the ends read back as the number. -/
  closed : Bool

/-- The neighbourhood of the number whose binary form has some exponent and fraction bits.  Below a
power of two the neighbours are twice as near as above it. -/
def Neighbourhood.ofBits (exponentBits fractionBits : Nat) : Neighbourhood :=
  let m := if exponentBits = 0 then fractionBits else Nat.pow 2 52 + fractionBits
  let e : Int := (max exponentBits 1 : Nat) - 1075
  let narrow := fractionBits = 0 ∧ 1 < exponentBits
  { value := .scaled (4 * m) 2 (e - 2)
    low := .scaled (4 * m - if narrow then 1 else 2) 2 (e - 2)
    high := .scaled (4 * m + 2) 2 (e - 2)
    closed := m % 2 = 0 }

/-- Whether a fraction reads back as the number. -/
def Neighbourhood.has (around : Neighbourhood) (x : Fraction) : Bool :=
  if around.closed then !x.below around.low && !around.high.below x
  else around.low.below x && x.below around.high

/-- A number of decimal digits and a power of ten. -/
structure Digits where
  digits : Nat
  power : Int

/-- The fraction that digits stand for. -/
def Digits.toFraction (d : Digits) : Fraction := .scaled d.digits 10 d.power

/-- How often a fraction has to be multiplied by ten until it is at least one. -/
def leadingZeros (den : Nat) : (fuel : Nat) → (num : Nat) → Nat
  | 0, _ => 0
  | fuel + 1, num => if den ≤ num then 0 else 1 + leadingZeros den fuel (10 * num)

/-- The least power of ten that lies above a fraction. -/
def Fraction.magnitude (x : Fraction) : Int :=
  if x.den ≤ x.num then (Nat.toDigits 10 (x.num / x.den)).length
  else 1 - (leadingZeros x.den 400 x.num : Int)

/-- The nearest number of a given count of digits that reads back; of two that are as near, the
larger. -/
def Neighbourhood.nearest? (around : Neighbourhood) (count : Nat) : Option Digits :=
  let power : Int := around.value.magnitude - count
  let unit := Fraction.scaled 1 10 power
  let floor := around.value.num * unit.den / (around.value.den * unit.num)
  let below : Digits := ⟨floor, power⟩
  -- a carry over all digits leaves a one
  let above : Digits := if floor + 1 = Nat.pow 10 count then ⟨1, power + count⟩ else ⟨floor + 1, power⟩
  match around.has below.toFraction, around.has above.toFraction with
  | false, false => none
  | true, false => some below
  | false, true => some above
  | true, true =>
    let middle := Fraction.scaled (2 * floor + 1) 10 power
    if (Fraction.mk (2 * around.value.num) around.value.den).below middle then some below
    else some above

/-- The shortest digits that read back, the nearest ones among them. -/
def Neighbourhood.shortest (around : Neighbourhood) : Digits :=
  ((List.range 17).findSome? fun count => around.nearest? (count + 1)).getD ⟨0, 0⟩

/-- Digits with a point at their place, and at least one digit on both sides of it. -/
def Digits.layout (d : Digits) : String :=
  let digits := Nat.toDigits 10 d.digits
  let whole : List Char :=
    match d.power with
    | .ofNat zeros => digits ++ List.replicate zeros '0' ++ ['.', '0']
    | .negSucc before =>
      let places := before + 1
      if digits.length ≤ places then
        ['0', '.'] ++ List.replicate (places - digits.length) '0' ++ digits
      else digits.take (digits.length - places) ++ '.' :: digits.drop (digits.length - places)
  String.ofList whole

/-- A floating-point number as it is shown in a message. -/
def ofFloat (x : Float) : String :=
  let bits := x.toBits.toNat
  let sign := if bits < Nat.pow 2 63 then "" else "-"
  let exponentBits := bits / Nat.pow 2 52 % Nat.pow 2 11
  let fractionBits := bits % Nat.pow 2 52
  if exponentBits = Nat.pow 2 11 - 1 then if fractionBits = 0 then sign ++ "inf" else "NaN"
  else if exponentBits = 0 ∧ fractionBits = 0 then sign ++ "0.0"
  else sign ++ (Neighbourhood.ofBits exponentBits fractionBits).shortest.layout

end RegexTemplate.Decimal
