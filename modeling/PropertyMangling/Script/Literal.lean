import PropertyMangling.Decimal.Shortest
import PropertyMangling.Script.Layout
import PropertyMangling.Script.Syntax
import PropertyMangling.Text.Hexadecimal
/-!
# Texts of literals

For reading, a literal is printed as it was written. In the compact style a
string is quoted anew and a number takes its shortest text; the text of a
template loses the escapes that it does not need.
-/
namespace PropertyMangling.Script

/-- A number below 256 as an escape of two hexadecimal digits. -/
def byteEscape (number : Nat) : List Char :=
  '\\' :: 'x' :: Text.padZeros 2 (Text.hexDigits number)

/-- Whether the characters behind a backslash are the escape of half a surrogate pair, which is kept
as it is. -/
def isSurrogateEscape (text : List Char) : Bool :=
  let digits := match text with
    | 'u' :: '\x7b' :: rest => rest.take 4
    | 'u' :: rest => rest.take 4
    | _ => []
  match digits with
  | [a, b, c, d] =>
    (a == 'd' || a == 'D') && (Text.hexValue? b).any (8 ≤ ·) &&
      (Text.hexValue? c).isSome && (Text.hexValue? d).isSome
  | _ => false

/-- The characters of a string between double or single quotes, quotes themselves as they are. -/
def stringText : List Char → List Char
  | [] => []
  | c :: rest =>
    let n := c.toNat
    let written :=
      if n = 0 then
        if rest.head?.any Char.isDigit then ['\\', 'x', '0', '0'] else ['\\', '0']
      else if c = '\n' then ['\\', 'n']
      else if c = '\r' then ['\\', 'r']
      else if n = 8 then ['\\', 'b']
      else if n = 0xB then ['\\', 'v']
      else if n = 0xC then ['\\', 'f']
      else if c = '\t' then ['\t']
      else if c = '\\' then if isSurrogateEscape rest then ['\\'] else ['\\', '\\']
      else if n < 0x20 then byteEscape n
      else if n = 0x2028 then "\\u2028".toList
      else if n = 0x2029 then "\\u2029".toList
      else if n = 0xFEFF then "\\uFEFF".toList
      else [c]
    written ++ stringText rest

/-- A string between the quotes that need fewer escapes, double ones in a tie. -/
def quoteString (value : String) : String :=
  let text := value.toList
  let quote := if text.count '"' > text.count '\'' then '\'' else '"'
  let body := (stringText text).flatMap fun c => if c = quote then ['\\', c] else [c]
  String.ofList (quote :: body ++ [quote])

/-- The text of a string literal. A directive that is only written with escapes is none, so it keeps
them. -/
def Quoted.print (style : Style) (literal : Quoted) : String :=
  match literal.source? with
  | some source =>
    if style = .readable || (literal.value == "use strict" && source.toList.contains '\\') then source
    else quoteString literal.value
  | none => quoteString literal.value

/-- The count of equal characters at the end of a text. -/
def trailingCount (c : Char) (text : List Char) : Nat := (text.reverse.takeWhile (· == c)).length

/-- The shortest text of a number that is written in decimal. -/
def decimalText (digits : List Char) : List Char :=
  match digits with
  | '0' :: '.' :: places =>
    let zeros := (places.takeWhile (· == '0')).length
    if zeros > 2 then places.drop zeros ++ ['e', '-'] ++ Nat.toDigits 10 places.length
    else '.' :: places
  | _ =>
    let zeros := trailingCount '0' digits
    if zeros > 2 then digits.take (digits.length - zeros) ++ ['e'] ++ Nat.toDigits 10 zeros
    else digits

/-- From this size on whole numbers are tried in hexadecimal. -/
def hexThreshold : Nat := 10000000

/-- The shortest text of a number, and whether it is hexadecimal. -/
def numberText (value : Binary64) (source : String) : List Char × Bool :=
  match value with
  | .infinite => (source.toList, false)
  | .finite mantissa exponent =>
    let decimal := decimalText (Decimal.shortest mantissa exponent).positional
    match value.toNat? with
    | some whole =>
      if hexThreshold ≤ whole && whole ≤ Nat.pow 2 64 && whole % 1000 ≠ 0 then
        ('0' :: 'x' :: Text.hexDigits (min whole (Nat.pow 2 64 - 1)), true)
      else (decimal, false)
    | none => (decimal, false)

/-- The text of a number. -/
def printNumber (style : Style) (value : Binary64) (source : String) : String :=
  match style with
  | .readable => source
  | .compact => String.ofList (numberText value source).1

/-- Whether a number is written with a second point in front of a member, because the first one
could be read as part of it. In the compact style a number past the largest double always is. -/
def needsPoint (style : Style) (value : Binary64) (source : String) : Bool :=
  match style, value with
  | .readable, _ =>
    let text := source.toList.filter fun c => c != '_'
    text.all Char.isDigit && !(text.head? == some '0' && text.length > 1)
  | .compact, .infinite => true
  | .compact, value =>
    let (text, isHex) := numberText value source
    !isHex && !text.contains '.' && !text.contains 'e'

/-- From this size on large whole numbers are shorter in hexadecimal. -/
def hexBigintThreshold : Nat := Nat.pow 10 16

/-- The text of a large whole number. -/
def printBigint (style : Style) (value : Nat) (source : String) : String :=
  match style with
  | .readable => source
  | .compact =>
    if value < hexBigintThreshold then toString value ++ "n"
    else "0x" ++ String.ofList (Text.hexDigits value) ++ "n"

/-- A text with every line end written as a line feed. -/
def normalLineEnds : List Char → List Char
  | [] => []
  | '\r' :: '\n' :: rest => '\n' :: normalLineEnds rest
  | '\r' :: rest => '\n' :: normalLineEnds rest
  | c :: rest => c :: normalLineEnds rest

/-- The character of a numbered escape in a template, as itself when it can be read. -/
def templateByte (number : Nat) (next? : Option Char) : List Char :=
  if number = 0 then
    if next?.any fun c => '1' ≤ c && c ≤ '9' then ['\\', 'x', '0', '0'] else ['\\', '0']
  else if 32 ≤ number && number ≤ 126 then [Char.ofNat number]
  else byteEscape number

/-- A character of a template that needs an escape has one. -/
def templateChar (c : Char) (next? : Option Char) : List Char :=
  let n := c.toNat
  if n = 0 then templateByte 0 next?
  else if n = 8 then ['\\', 'b']
  else if n = 0xB then ['\\', 'v']
  else if n = 0xC then ['\\', 'f']
  else if 0x7F ≤ n && n ≤ 0xFF then byteEscape n
  else if n = 0x2028 then "\\u2028".toList
  else if n = 0x2029 then "\\u2029".toList
  else if n = 0xFEFF then "\\uFEFF".toList
  else [c]

/-- Whether a dollar sign counts as written behind a character, from whether it did before. Only
characters of the plain alphabet end it. -/
def staysDollar (afterDollar : Bool) (c : Char) : Bool :=
  if c = '$' then true else if ' ' ≤ c && c ≤ '~' then false else afterDollar

/-- Escapes that a template keeps. -/
def isKeptEscape (c : Char) : Bool :=
  ['\\', 'r', 'v', 'b', 'f', 'u', '\n', '`'].contains c || ('0' ≤ c && c ≤ '7')

/-- The text of a template without the escapes that it does not need. The character behind a
numbered escape is left as it is, and a brace behind a dollar sign keeps its escape. -/
def templateText (afterDollar : Bool) : List Char → List Char
  | [] => []
  | '\\' :: 'x' :: a :: b :: rest =>
    match Text.hexValue? a, Text.hexValue? b with
    | some high, some low =>
      match rest with
      | [] => templateByte (high * 16 + low) none
      | c :: rest => templateByte (high * 16 + low) (some c) ++ c :: templateText afterDollar rest
    | _, _ => '\\' :: 'x' :: a :: b :: templateText afterDollar rest
  | '\\' :: '$' :: '\x7b' :: rest => '\\' :: '$' :: '\x7b' :: templateText false rest
  | '\\' :: c :: rest =>
    if c = 'n' then '\n' :: templateText afterDollar rest
    else if c = 't' then '\t' :: templateText afterDollar rest
    else if c.toNat = 0x2028 || c.toNat = 0x2029 then templateText afterDollar rest
    else if isKeptEscape c then '\\' :: c :: templateText afterDollar rest
    else if c = '\x7b' && afterDollar then '\\' :: c :: templateText false rest
    else templateChar c rest.head? ++ templateText (staysDollar afterDollar c) rest
  | c :: rest => templateChar c rest.head? ++ templateText (staysDollar afterDollar c) rest

/-- The text of a template between its marks. -/
def printTemplateText (style : Style) (source : String) : String :=
  let text := normalLineEnds source.toList
  match style with
  | .readable => String.ofList text
  | .compact => String.ofList (templateText false text)

end PropertyMangling.Script
