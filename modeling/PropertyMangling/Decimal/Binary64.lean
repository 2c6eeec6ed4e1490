/-!
# Double precision in exact arithmetic

Numbers of scripts and of option files are doubles. A double without its sign is
kept as a mantissa and a power of two, and every operation computes the exact
result as a quotient of natural numbers and rounds it once, to the nearest
double and in a tie to the one with the even mantissa.
-/
namespace PropertyMangling

/-- A double without its sign: `mantissa · 2 ^ exponent`, or past the largest one. The mantissa has
at most 53 bits, and fewer only at the least exponent, -1074. -/
inductive Binary64 where
  | finite (mantissa : Nat) (exponent : Int)
  | infinite
deriving DecidableEq, Repr

namespace Binary64

/-- The number zero, with the exponent of the smallest numbers. -/
def zero : Binary64 := .finite 0 (-1074)

instance : Inhabited Binary64 := ⟨zero⟩

/-- A natural number times a power, as a numerator and a denominator. -/
def scaled (number base : Nat) (exponent : Int) : Nat × Nat :=
  if 0 ≤ exponent then (number * base.pow exponent.toNat, 1)
  else (number, base.pow (-exponent).toNat)

/-- The nearest natural number to a quotient, an even one in a tie. -/
def roundQuotient (numerator denominator : Nat) : Nat :=
  let quotient := numerator / denominator
  let twice := 2 * (numerator % denominator)
  if twice > denominator || (twice == denominator && quotient % 2 == 1) then quotient + 1
  else quotient

/-- A quotient divided by a power of two. -/
def dividedBy (numerator denominator : Nat) (exponent : Int) : Nat × Nat :=
  if 0 ≤ exponent then (numerator, denominator * Nat.pow 2 exponent.toNat)
  else (numerator * Nat.pow 2 (-exponent).toNat, denominator)

/-- The double nearest to a quotient. -/
def ofQuotient (numerator denominator : Nat) : Binary64 :=
  if numerator = 0 then zero
  else
    let least := max ((Nat.log2 numerator : Int) - Nat.log2 denominator - 53) (-1074)
    let (high, low) := dividedBy numerator denominator least
    let exponent := if high / low ≥ Nat.pow 2 53 then least + 1 else least
    let (high, low) := dividedBy numerator denominator exponent
    let mantissa := roundQuotient high low
    let (mantissa, exponent) :=
      if mantissa = Nat.pow 2 53 then (Nat.pow 2 52, exponent + 1) else (mantissa, exponent)
    if exponent > 971 then .infinite else .finite mantissa exponent

/-- The double nearest to a natural number. -/
def ofNat (number : Nat) : Binary64 := ofQuotient number 1

/-- The double nearest to `coefficient · 10 ^ exponent`. Exponents that leave the range of doubles
whatever the digits are answered without computing the power. -/
def ofDecimal (coefficient : Nat) (exponent : Int) : Binary64 :=
  if coefficient = 0 then zero
  else
    let top := (Nat.toDigits 10 coefficient).length + exponent
    if top > 310 then .infinite
    else if top < -330 then zero
    else
      let (numerator, denominator) := scaled coefficient 10 exponent
      ofQuotient numerator denominator

/-- The product of two doubles, rounded. -/
def mul : Binary64 → Binary64 → Binary64
  | .finite m e, .finite n f =>
    let (numerator, denominator) := scaled (m * n) 2 (e + f)
    ofQuotient numerator denominator
  | _, _ => .infinite

/-- The quotient of a double by one that is not zero, rounded. -/
def div : Binary64 → Binary64 → Binary64
  | .finite m e, .finite n f =>
    if 0 ≤ e - f then ofQuotient (m * Nat.pow 2 (e - f).toNat) n
    else ofQuotient m (n * Nat.pow 2 (f - e).toNat)
  | .infinite, _ => .infinite
  | _, .infinite => zero

/-- The value when it is a whole number. -/
def toNat? : Binary64 → Option Nat
  | .infinite => none
  | .finite m e =>
    let (numerator, denominator) := scaled m 2 e
    if numerator % denominator = 0 then some (numerator / denominator) else none

/-- Whether a number is zero. -/
def isZero (value : Binary64) : Bool :=
  match value with
  | .finite m _ => m == 0
  | .infinite => false

end Binary64

end PropertyMangling
