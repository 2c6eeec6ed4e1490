import PropertyMangling.Text.Graphic
import PropertyMangling.Text.Hexadecimal
/-!
# Quoted texts

Messages and tree listings show a text between double quotes. The two
characters with a meaning there, and the usual controls, have an escape of two
characters; every other character that is not graphic is written by its number.
-/
namespace PropertyMangling.Text

/-- One character as a quoted text shows it. -/
def quotedChar (c : Char) : List Char :=
  match c with
  | '"' => ['\\', '"']
  | '\\' => ['\\', '\\']
  | '\n' => ['\\', 'n']
  | '\r' => ['\\', 'r']
  | '\t' => ['\\', 't']
  | '\x00' => ['\\', '0']
  | _ => if isGraphic c then [c] else ['\\', 'u', '\x7b'] ++ hexDigits c.toNat ++ ['\x7d']

/-- A text between double quotes, with escapes. -/
def quoted (text : String) : String :=
  String.ofList ('"' :: text.toList.flatMap quotedChar ++ ['"'])

end PropertyMangling.Text
