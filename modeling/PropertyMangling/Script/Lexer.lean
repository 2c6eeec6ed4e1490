import PropertyMangling.Script.Token
import PropertyMangling.Text.Hexadecimal
/-!
# Reading tokens

Each function reads one kind of token off the front of a text and answers with
what it read and the characters behind it, or with nothing when the text is no
such token. Counts bound the recursions by the length of the text.
-/
namespace PropertyMangling.Script.Lexer

/-- What was read and the characters behind it. -/
abbrev Read (α : Type) := List Char → Option (α × List Char)

/-- The number that digits of a radix stand for. -/
def valueOf (radix : Nat) (digits : List Char) : Nat :=
  digits.foldl (fun value digit => value * radix + (Text.hexValue? digit).getD 0) 0

/-- Exactly so many hexadecimal digits. -/
def hexRun (count : Nat) : Read Nat := fun text =>
  let digits := text.take count
  if digits.length = count && digits.all fun c => (Text.hexValue? c).isSome then
    some (valueOf 16 digits, text.drop count)
  else none

/-- The number of a character, behind a backslash and the letter `u`: four digits, or any count of
digits between braces. -/
def characterNumber : Read Nat
  | '\x7b' :: rest =>
    let digits := rest.takeWhile fun c => (Text.hexValue? c).isSome
    match rest.drop digits.length with
    | '\x7d' :: rest =>
      if !digits.isEmpty && valueOf 16 digits ≤ 0x10FFFF then some (valueOf 16 digits, rest) else none
    | _ => none
  | text => hexRun 4 text

/-- The characters of a name from some place inside it, and whether any of them was escaped. -/
def nameRun : Nat → Read (List Char × Bool)
  | 0, text => some (([], false), text)
  | count + 1, '\\' :: 'u' :: rest => do
    let (number, rest) ← characterNumber rest
    let c := Char.ofNat number
    if isNamePart c then
      let ((chars, _), rest) ← nameRun count rest
      return ((c :: chars, true), rest)
    else none
  | _ + 1, '\\' :: _ => none
  | count + 1, c :: rest =>
    if isNamePart c then do
      let ((chars, escaped), rest) ← nameRun count rest
      return ((c :: chars, escaped), rest)
    else some (([], false), c :: rest)
  | _ + 1, [] => some (([], false), [])

/-- Whether a name starts with a character. An escape may start one whatever it stands for. -/
def opensName (c : Char) : Bool := isNameStart c || c == '\\'

/-- A name and how it is written. -/
def name : Read (String × Spelling) := fun text => do
  let first ← text.head?
  if opensName first then
    let ((chars, escaped), rest) ← nameRun text.length text
    let spelling := if first = '\\' then .disguised else if escaped then .escaped else .plain
    return ((String.ofList chars, spelling), rest)
  else none

/-- Digits with separators in front of some of them, which are left out; there may be none at all. -/
def digitRun (isDigit : Char → Bool) : Read (List Char) := fun text =>
  let run := text.takeWhile fun c => isDigit c || c == '_'
  let doubled := (run.zip (run.drop 1)).any fun (a, b) => a == '_' && b == '_'
  if run.getLast? == some '_' || doubled then none
  else some (run.filter fun c => c != '_', text.drop run.length)

/-- A number in another radix than ten, behind its mark. -/
def radixNumber (radix : Nat) : Read Token := fun text => do
  let isDigit := fun c => (Text.hexValue? c).any fun digit => digit < radix
  let (digits, rest) ← digitRun isDigit text
  match digits, rest with
  | [], _ => none
  | _, 'n' :: rest => return (.bigint (valueOf radix digits), rest)
  | _, _ => return (.number (Binary64.ofNat (valueOf radix digits)) false, rest)

/-- The exponent of a decimal number; without the letter it is zero. -/
def exponent : Read Int := fun text =>
  match text with
  | c :: rest =>
    if c = 'e' || c = 'E' then do
      let (negative, rest) := match rest with
        | '-' :: rest => (true, rest)
        | '+' :: rest => (false, rest)
        | _ => (false, rest)
      let (digits, rest) ← digitRun Char.isDigit rest
      if digits.isEmpty then none
      else
        let value : Int := valueOf 10 digits
        return (if negative then -value else value, rest)
    else some (0, text)
  | [] => some (0, [])

/-- The fraction and the exponent behind the whole digits of a decimal number. -/
def decimalTail (whole : List Char) (legacy : Bool) : Read Token := fun text => do
  let (fraction, rest) ← match text with
    | '.' :: rest => digitRun Char.isDigit rest
    | _ => some ([], text)
  let (exponent, rest) ← exponent rest
  let value := Binary64.ofDecimal (valueOf 10 (whole ++ fraction)) (exponent - fraction.length)
  return (.number value legacy, rest)

/-- A decimal number. One with an idle leading zero is legacy, and its digits are octal unless one
of them cannot be; zeros alone are octal. In front of the letter of a large whole number all digits
are decimal. -/
def decimalNumber : Read Token := fun text => do
  let (whole, rest) ← digitRun Char.isDigit text
  let legacy := text.head? == some '0' && (text.drop 1).length > rest.length
  match rest with
  | 'n' :: behind => if whole.isEmpty then none else return (.bigint (valueOf 10 whole), behind)
  | _ =>
    if legacy && whole.all fun c => c < '8' then
      return (.number (Binary64.ofNat (valueOf 8 whole)) true, rest)
    else decimalTail whole legacy rest

/-- A number. No name may start directly behind it, except behind a large whole number. -/
def number : Read Token := fun text => do
  let (token, rest) ← match text with
    | '0' :: c :: rest =>
      if c = 'x' || c = 'X' then radixNumber 16 rest
      else if c = 'o' || c = 'O' then radixNumber 8 rest
      else if c = 'b' || c = 'B' then radixNumber 2 rest
      else decimalNumber text
    | _ => decimalNumber text
  match token with
  | .bigint _ => return (token, rest)
  | _ => if rest.head?.any isNameStart then none else return (token, rest)

/-- Whether a character is an octal digit. -/
def isOctal (c : Char) : Bool := '0' ≤ c && c < '8'

/-- The octal digits of an escape: at most three, as long as their number fits a byte. -/
def octalEscape (text : List Char) : Nat × List Char :=
  let digits := (text.take 3).takeWhile isOctal
  if valueOf 8 digits < 256 then (valueOf 8 digits, text.drop digits.length)
  else (valueOf 8 (digits.take 2), text.drop 2)

/-- The characters of a numbered character in a string. Two halves of a pair make one character; a
half that stands alone is kept as its escape. -/
def pairedCharacter (number : Nat) (text : List Char) : List Char × List Char :=
  if number < 0xD800 || 0xDFFF < number then ([Char.ofNat number], text)
  else
    let alone := ('\\' :: 'u' :: (Text.hexDigits number).map Char.toUpper, text)
    if number < 0xDC00 then
      match text with
      | '\\' :: 'u' :: rest =>
        match characterNumber rest with
        | some (low, rest) =>
          if 0xDC00 ≤ low && low ≤ 0xDFFF then
            ([Char.ofNat ((number - 0xD800) * 0x400 + (low - 0xDC00) + 0x10000)], rest)
          else alone
        | none => alone
      | _ => alone
    else alone

/-- The characters that an escape stands for, behind its backslash, and whether it is legacy. -/
def escape : Read (List Char × Bool)
  | [] => none
  | '\r' :: '\n' :: rest => some (([], false), rest)
  | 'x' :: rest => do
    let (number, rest) ← hexRun 2 rest
    return (([Char.ofNat number], false), rest)
  | 'u' :: rest => do
    let (number, rest) ← characterNumber rest
    let (chars, rest) := pairedCharacter number rest
    return ((chars, false), rest)
  | c :: rest =>
    if isLineEnd c then some (([], false), rest)
    else if c = '0' && !(rest.head?.any isOctal) then some ((['\x00'], false), rest)
    else if isOctal c then
      let (number, rest) := octalEscape (c :: rest)
      some (([Char.ofNat number], true), rest)
    else
      let meant := match c with
        | 'n' => '\n'
        | 't' => '\t'
        | 'r' => '\r'
        | 'b' => '\x08'
        | 'v' => '\x0b'
        | 'f' => '\x0c'
        | c => c
      some (([meant], false), rest)

/-- The characters of a string up to its closing quote, and whether any escape is legacy. -/
def stringRun (quote : Char) : Nat → Read (List Char × Bool)
  | 0, _ => none
  | _ + 1, [] => none
  | count + 1, c :: rest =>
    if c = quote then some (([], false), rest)
    else if c = '\\' then do
      let ((meant, legacy), rest) ← escape rest
      let ((chars, others), rest) ← stringRun quote count rest
      return ((meant ++ chars, legacy || others), rest)
    else if c = '\n' || c = '\r' then none
    else do
      let ((chars, legacy), rest) ← stringRun quote count rest
      return ((c :: chars, legacy), rest)

/-- A mark or an operator, the longest that the text starts with. -/
def symbol : Read Token := fun text => do
  let found ← symbols.find? fun symbol => symbol.isPrefixOf text
  return (.symbol (String.ofList found), text.drop found.length)

/-- The token at the front of a text. -/
def token : Read Token := fun text =>
  match text with
  | [] => some (.finish, [])
  | c :: rest =>
    if opensName c then do
      let ((name, spelling), rest) ← name text
      return (.word name spelling, rest)
    else if c == '#' && rest.head?.any opensName then do
      let ((name, spelling), rest) ← name rest
      return (.privateName name spelling, rest)
    else if c.isDigit || (c == '.' && rest.head?.any Char.isDigit) then number text
    else if c == '"' || c == '\'' then do
      let ((chars, legacy), rest) ← stringRun c text.length rest
      return (.string (String.ofList chars) legacy, rest)
    else symbol text

/-- The length of a regular expression's body, behind its opening slash; a slash inside brackets
does not close it. -/
def regexBody (inBrackets : Bool) : List Char → Option Nat
  | [] => none
  | '\\' :: c :: rest => if isLineEnd c then none else (regexBody inBrackets rest).map (· + 2)
  | c :: rest =>
    if isLineEnd c then none
    else if c = '/' && !inBrackets then some 0
    else (regexBody (if c = '[' then true else if c = ']' then false else inBrackets) rest).map (· + 1)

/-- The flags that a regular expression may have, each of them once. -/
def regexFlags : List Char := ['d', 'g', 'i', 'm', 's', 'u', 'v', 'y']

/-- A regular expression with its slashes and flags; escapes in the flags are resolved. -/
def regex : Read String
  | '/' :: rest => do
    let length ← regexBody false rest
    let behind := rest.drop (length + 1)
    let ((flags, _), behind) ← if behind.head?.any isNameStart then nameRun behind.length behind
      else some (([], false), behind)
    if length ≠ 0 && flags.all regexFlags.contains && flags.eraseDups.length == flags.length then
      return (String.ofList ('/' :: (rest.take (length + 1) ++ flags)), behind)
    else none
  | _ => none

/-- A stretch of a template's text. -/
structure TemplateText where
  source : List Char
  /-- A value follows; otherwise the template ends. -/
  goesOn : Bool
  /-- Every escape has a meaning. -/
  valid : Bool

/-- Whether the escape behind a backslash has a meaning in a template. -/
def isTemplateEscape (text : List Char) : Bool :=
  match text with
  | 'x' :: rest => (hexRun 2 rest).isSome
  | 'u' :: rest => (characterNumber rest).isSome
  | c :: rest => if c = '0' then !(rest.head?.any isOctal) else !isOctal c
  | [] => false

/-- The text of a template up to a value or to the end of the template. -/
def templateText : List Char → Option (TemplateText × List Char)
  | [] => none
  | '`' :: rest => some (⟨[], false, true⟩, rest)
  | '$' :: '\x7b' :: rest => some (⟨[], true, true⟩, rest)
  | '\\' :: c :: rest => do
    let (text, behind) ← templateText rest
    let valid := text.valid && isTemplateEscape (c :: rest)
    return ({ text with source := '\\' :: c :: text.source, valid := valid }, behind)
  | c :: rest => do
    let (text, behind) ← templateText rest
    return ({ text with source := c :: text.source }, behind)

end PropertyMangling.Script.Lexer
