import PropertyMangling.Json.Value
import PropertyMangling.Text.Hexadecimal
/-!
# Reading option files

The grammar is strict: no comments, no trailing commas, nothing behind the
value. Strings hold neither raw controls nor halves of surrogate pairs, nesting
ends at a fixed depth, and a number that no double can hold is refused.

A double is not rounded from its decimal at once: the digits are gathered as
long as they fit 64 bits, and the significand is then multiplied or divided by
powers of ten that are doubles themselves.
-/
namespace PropertyMangling.Json

/-- What was read and the characters behind it. -/
abbrev Read (α : Type) := List Char → Option (α × List Char)

/-- How deep lists and objects may nest. -/
def nestingLimit : Nat := 127

/-- The largest whole number that is kept exactly. -/
def largestInteger : Nat := Nat.pow 2 64 - 1

/-- The characters behind leading white space. -/
def skipSpace (text : List Char) : List Char :=
  text.dropWhile fun c => c == ' ' || c == '\n' || c == '\t' || c == '\r'

/-- The characters behind a word, provided the text starts with it. -/
def expect (word : String) (text : List Char) : Option (List Char) :=
  if word.toList.isPrefixOf text then some (text.drop word.length) else none

/-- Four hexadecimal digits. -/
def fourDigits : Read Nat
  | a :: b :: c :: d :: rest => do
    let a ← Text.hexValue? a
    let b ← Text.hexValue? b
    let c ← Text.hexValue? c
    let d ← Text.hexValue? d
    return (((a * 16 + b) * 16 + c) * 16 + d, rest)
  | _ => none

/-- A character given by its number, in one escape or in the two of a surrogate pair. -/
def numberedChar : Read Char := fun text => do
  let (high, rest) ← fourDigits text
  if 0xDC00 ≤ high && high < 0xE000 then none
  else if 0xD800 ≤ high && high < 0xDC00 then
    let rest ← expect "\\u" rest
    let (low, rest) ← fourDigits rest
    if 0xDC00 ≤ low && low < 0xE000 then
      return (Char.ofNat ((high - 0xD800) * 0x400 + (low - 0xDC00) + 0x10000), rest)
    else none
  else return (Char.ofNat high, rest)

/-- The character of an escape, behind its backslash. -/
def escapedChar : Read Char
  | '"' :: rest => some ('"', rest)
  | '\\' :: rest => some ('\\', rest)
  | '/' :: rest => some ('/', rest)
  | 'b' :: rest => some ('\x08', rest)
  | 'f' :: rest => some ('\x0c', rest)
  | 'n' :: rest => some ('\n', rest)
  | 'r' :: rest => some ('\r', rest)
  | 't' :: rest => some ('\t', rest)
  | 'u' :: rest => numberedChar rest
  | _ => none

/-- The characters of a string, behind its opening quote; the count bounds the characters. -/
def stringChars : Nat → Read (List Char)
  | 0, _ => none
  | _ + 1, [] => none
  | count + 1, c :: rest =>
    if c = '"' then some ([], rest)
    else if c = '\\' then do
      let (c, rest) ← escapedChar rest
      let (chars, rest) ← stringChars count rest
      return (c :: chars, rest)
    else if c.toNat < 0x20 then none
    else do
      let (chars, rest) ← stringChars count rest
      return (c :: chars, rest)

/-- A string, behind its opening quote. -/
def string : Read String := fun text => do
  let (chars, rest) ← stringChars (text.length + 1) text
  return (String.ofList chars, rest)

/-- Gathers digits into a significand as long as it fits 64 bits, and says how many were left. -/
def gather (significand : Nat) : List Char → Nat × Nat
  | [] => (significand, 0)
  | digit :: rest =>
    let next := significand * 10 + (digit.toNat - 48)
    if next ≤ largestInteger then gather next rest else (significand, rest.length + 1)

/-- A significand of 64 bits is zero after two divisions by the largest power. -/
def scalingSteps : Nat := 4

/-- A significand scaled by a power of ten, one double at a time; none when it is too large. -/
def scale (value : Binary64) (exponent : Int) : Nat → Option Binary64
  | 0 => none
  | steps + 1 =>
    if exponent.natAbs ≤ 308 then
      let power := Binary64.ofDecimal 1 exponent.natAbs
      if 0 ≤ exponent then
        match value.mul power with
        | .infinite => none
        | scaled => some scaled
      else some (value.div power)
    else if value.isZero then some value
    else if 0 ≤ exponent then none
    else scale (value.div (Binary64.ofDecimal 1 308)) (exponent + 308) steps

/-- The largest exponent that can be written; a larger one counts as past every limit. -/
def largestExponent : Nat := Nat.pow 2 31 - 1

/-- The double of a number's parts. An exponent past the limit makes zero of a number that is zero or
very small, and no number of any other. -/
def realOf (negative : Bool) (whole fraction : List Char) (exponentNegative : Bool)
    (exponent : List Char) : Option Value := do
  let (significand, left) := gather 0 whole
  let (significand, dropped) := gather significand fraction
  let written := exponent.foldl (fun value digit => value * 10 + (digit.toNat - 48)) 0
  if written > largestExponent then
    if significand = 0 || exponentNegative then return .real negative Binary64.zero
    else none
  else
    let exponent : Int := if exponentNegative then -written else written
    let places : Int := fraction.length - dropped
    let limit : Int := largestExponent
    let exponent := max (-limit - 1) (min limit (exponent + left - places))
    return .real negative (← scale (Binary64.ofNat significand) exponent scalingSteps)

/-- A number. -/
def number : Read Value := fun text => do
  let (negative, text) := match text with
    | '-' :: rest => (true, rest)
    | _ => (false, text)
  let whole := text.takeWhile Char.isDigit
  let rest := text.dropWhile Char.isDigit
  if whole.isEmpty || (whole.head? == some '0' && whole.length > 1) then none
  else
    let (hasFraction, fraction, rest) := match rest with
      | '.' :: rest => (true, rest.takeWhile Char.isDigit, rest.dropWhile Char.isDigit)
      | _ => (false, [], rest)
    if hasFraction && fraction.isEmpty then none
    else
      let (hasExponent, exponentNegative, exponent, rest) := match rest with
        | c :: rest' =>
          if c = 'e' || c = 'E' then
            let (exponentNegative, digits) := match rest' with
              | '-' :: digits => (true, digits)
              | '+' :: digits => (false, digits)
              | _ => (false, rest')
            (true, exponentNegative, digits.takeWhile Char.isDigit,
              digits.dropWhile Char.isDigit)
          else (false, false, [], rest)
        | [] => (false, false, [], rest)
      if hasExponent && exponent.isEmpty then none
      else
        let (significand, left) := gather 0 whole
        let isInteger := !hasFraction && !hasExponent && left == 0 &&
          (!negative || (0 < significand && significand ≤ Nat.pow 2 63))
        if isInteger then return (.integer (if negative then -significand else significand), rest)
        else return (← realOf negative whole fraction exponentNegative exponent, rest)

/-- One or more items with commas between them, up to the closing character; the count bounds
the items. -/
def items {α : Type} (item : Read α) (close : Char) : Nat → Read (List α)
  | 0, _ => none
  | count + 1, text => do
    let (first, rest) ← item text
    match skipSpace rest with
    | c :: rest =>
      if c = close then return ([first], rest)
      else if c = ',' then
        let (others, rest) ← items item close count rest
        return (first :: others, rest)
      else none
    | [] => none

/-- A possibly empty sequence of items, behind its opening character. -/
def sequence {α : Type} (item : Read α) (close : Char) : Read (List α) := fun text =>
  match skipSpace text with
  | c :: rest => if c = close then some ([], rest) else items item close text.length text
  | [] => none

/-- A member of an object. -/
def member (value : Read Value) : Read (String × Value) := fun text => do
  let rest ← expect "\"" (skipSpace text)
  let (name, rest) ← string rest
  let rest ← expect ":" (skipSpace rest)
  let (value, rest) ← value rest
  return ((name, value), rest)

/-- A value with at most the given number of levels below it. -/
def value : Nat → Read Value
  | levels, text => do
    match skipSpace text with
    | [] => none
    | c :: rest =>
      if c = '"' then
        let (text, rest) ← string rest
        return (.string text, rest)
      else if c = '[' || c = '\x7b' then
        match levels with
        | 0 => none
        | levels + 1 =>
          if c = '[' then
            let (items, rest) ← sequence (value levels) ']' rest
            return (.list items, rest)
          else
            let (members, rest) ← sequence (member (value levels)) '\x7d' rest
            return (.object members, rest)
      else if c = 'n' then return (.null, ← expect "null" (c :: rest))
      else if c = 't' then return (.boolean true, ← expect "true" (c :: rest))
      else if c = 'f' then return (.boolean false, ← expect "false" (c :: rest))
      else number (c :: rest)

/-- The value that a whole text stands for. -/
def read? (text : String) : Option Value := do
  let (value, rest) ← value nestingLimit text.toList
  if (skipSpace rest).isEmpty then return value else none

end PropertyMangling.Json
