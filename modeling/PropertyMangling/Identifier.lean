/-!
# Plain identifiers

A plain identifier starts with an ASCII letter, a dollar sign or an underscore,
goes on with these or digits, and is no word of the language. Only plain
identifiers are shortened, and only plain identifiers are handed out as short
names, so both sides of a mapping can stand after a dot.
-/
namespace PropertyMangling.Identifier

/-- Words that open or join statements. -/
def keywords : List String := [
  "break", "case", "catch", "const", "continue", "debugger", "default", "delete", "do", "else",
  "finally", "for", "function", "if", "in", "instanceof", "new", "return", "switch", "throw",
  "try", "typeof", "var", "void", "while", "with"]

/-- Words set aside by some version of the language. -/
def reservedWords : List String := [
  "abstract", "await", "boolean", "byte", "char", "class", "double", "enum", "export",
  "extends", "final", "float", "goto", "implements", "import", "int", "interface", "let",
  "long", "native", "package", "private", "protected", "public", "short", "static", "super",
  "synchronized", "throws", "transient", "volatile", "yield"]

/-- Words that are values. -/
def atoms : List String := ["false", "null", "true", "undefined", "this"]

/-- Every word that is no identifier although it has the shape of one. -/
def words : List String := keywords ++ reservedWords ++ atoms

/-- A character that may start a plain identifier. -/
def isStart (c : Char) : Bool :=
  ('a' ≤ c && c ≤ 'z') || ('A' ≤ c && c ≤ 'Z') || c == '_' || c == '$'

/-- A character that may stand inside a plain identifier. -/
def isPart (c : Char) : Bool := isStart c || ('0' ≤ c && c ≤ '9')

/-- The shape of a plain identifier, words of the language included. -/
def hasShape : List Char → Bool
  | [] => false
  | first :: rest => isStart first && rest.all isPart

/-- A name that can be written as a plain identifier. -/
def isPlain (name : String) : Bool := hasShape name.toList && !words.contains name

/-- What may start an identifier may stand inside one as well. -/
theorem isPart_of_isStart {c : Char} (start : isStart c = true) : isPart c = true := by
  simp [isPart, start]

/-- A shape has a character, and all of its characters are identifier parts. -/
theorem hasShape_all {name : List Char} (shape : hasShape name = true) :
    name ≠ [] ∧ name.all isPart = true := by
  cases name with
  | nil => simp [hasShape] at shape
  | cons first rest =>
    simp only [hasShape, Bool.and_eq_true] at shape
    simp [isPart_of_isStart shape.1]
    simpa using shape.2

end PropertyMangling.Identifier
