import PropertyMangling.Decimal.Binary64
/-!
# The shortest decimal of a double

A double is written with the fewest digits that read back as it, and of the
decimals with that many digits with the nearest one. For one digit, two digits
and so on the two decimals around the value are tried against the interval of
numbers that round to it; seventeen digits always suffice.
-/
namespace PropertyMangling

/-- A decimal: `coefficient · 10 ^ exponent`. -/
structure Decimal where
  coefficient : Nat
  exponent : Int
deriving DecidableEq, Repr, Inhabited

namespace Decimal

/-- Whether the first quotient is below the second. -/
def quotientLt (a b : Nat × Nat) : Bool := a.1 * b.2 < b.1 * a.2

/-- Whether a quotient rounds to the double with the given mantissa and exponent: it lies between
the midpoints to the neighbours, and on a midpoint only when the mantissa is even. -/
def roundsTo (mantissa : Nat) (exponent : Int) (candidate : Nat × Nat) : Bool :=
  let below := if mantissa = Nat.pow 2 52 && exponent > -1074 then 1 else 2
  let low := Binary64.scaled (4 * mantissa - below) 2 (exponent - 2)
  let high := Binary64.scaled (4 * mantissa + 2) 2 (exponent - 2)
  if mantissa % 2 = 0 then !quotientLt candidate low && !quotientLt high candidate
  else quotientLt low candidate && quotientLt candidate high

/-- The power of ten at or below a positive quotient. -/
def decimalMagnitude (value : Nat × Nat) : Int :=
  let guess : Int := (Nat.toDigits 10 value.1).length - (Nat.toDigits 10 value.2).length
  if quotientLt value (Binary64.scaled 1 10 guess) then guess - 1 else guess

/-- The decimal with the given last place next to the value that reads back as it. -/
def atPlace? (mantissa : Nat) (exponent place : Int) : Option Decimal :=
  let value := Binary64.scaled mantissa 2 exponent
  let unit := Binary64.scaled 1 10 place
  let floor := value.1 * unit.2 / (value.2 * unit.1)
  let rest := value.1 * unit.2 % (value.2 * unit.1)
  let reads := fun (c : Nat) => roundsTo mantissa exponent (Binary64.scaled c 10 place)
  let nearer := if 2 * rest > value.2 * unit.1 ||
    (2 * rest == value.2 * unit.1 && floor % 2 == 1) then floor + 1 else floor
  let other := if nearer = floor then floor + 1 else floor
  if reads nearer then some ⟨nearer, place⟩
  else if reads other then some ⟨other, place⟩
  else none

/-- Tries more and more digits. -/
def search (mantissa : Nat) (exponent top : Int) : Nat → Nat → Decimal
  | 0, _ => ⟨mantissa, exponent⟩
  | tries + 1, digits =>
    match atPlace? mantissa exponent (top - digits) with
    | some found => found
    | none => search mantissa exponent top tries (digits + 1)

/-- Moves zeros at the end of the coefficient into the exponent. -/
def dropZeros (fuel : Nat) (decimal : Decimal) : Decimal :=
  match fuel with
  | 0 => decimal
  | fuel + 1 =>
    if decimal.coefficient % 10 = 0 && decimal.coefficient ≠ 0 then
      dropZeros fuel ⟨decimal.coefficient / 10, decimal.exponent + 1⟩
    else decimal

/-- The shortest decimal of a positive double given by its mantissa and exponent. -/
def shortest (mantissa : Nat) (exponent : Int) : Decimal :=
  if mantissa = 0 then ⟨0, 0⟩
  else
    let top := decimalMagnitude (Binary64.scaled mantissa 2 exponent)
    dropZeros 400 (search mantissa exponent top 17 0)

/-- All digits of a decimal, without an exponent: zeros are filled in on either side of the point,
and there is a point only when a digit stands behind it. -/
def positional (decimal : Decimal) : List Char :=
  let digits := Nat.toDigits 10 decimal.coefficient
  if 0 ≤ decimal.exponent then
    if decimal.coefficient = 0 then digits
    else digits ++ List.replicate decimal.exponent.toNat '0'
  else
    let places := (-decimal.exponent).toNat
    let digits := List.replicate (places + 1 - digits.length) '0' ++ digits
    digits.take (digits.length - places) ++ '.' :: digits.drop (digits.length - places)

end Decimal

end PropertyMangling
