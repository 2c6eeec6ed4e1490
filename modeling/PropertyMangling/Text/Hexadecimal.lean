/-!
# Hexadecimal digits

Escapes and large numbers are written with lower case hexadecimal digits;
digits are read in either case.
-/
namespace PropertyMangling.Text

/-- The lower case digits of a number, most significant first; zero is `0`. -/
def hexDigits (number : Nat) : List Char := Nat.toDigits 16 number

/-- Digits filled up with zeros to a width. -/
def padZeros (width : Nat) (digits : List Char) : List Char :=
  List.replicate (width - digits.length) '0' ++ digits

/-- The value of a digit in either case. -/
def hexValue? (c : Char) : Option Nat :=
  if '0' ≤ c && c ≤ '9' then some (c.toNat - 48)
  else if 'a' ≤ c && c ≤ 'f' then some (c.toNat - 87)
  else if 'A' ≤ c && c ≤ 'F' then some (c.toNat - 55)
  else none

end PropertyMangling.Text
