import PropertyMangling.Text.Blank
/-!
# Lines of a text file

A file is trimmed as a whole, cut at every line feed, and each line loses one
carriage return at its end. Inner blank lines and indentation stay, and an empty
text has one empty line. `splitOn_ne_nil` and `flatten_splitOn` say that cutting always gives
at least one piece and loses nothing but the separators.
-/
namespace PropertyMangling.Text

/-- The pieces between the occurrences of a separator. -/
def splitOn (separator : Char) : List Char → List (List Char)
  | [] => [[]]
  | c :: rest =>
    if c = separator then [] :: splitOn separator rest
    else
      match splitOn separator rest with
      | [] => [[c]]
      | piece :: pieces => (c :: piece) :: pieces

/-- Cutting a text leaves one piece at least, the whole text where there is no separator. -/
theorem splitOn_ne_nil (separator : Char) (text : List Char) : splitOn separator text ≠ [] := by
  cases text with
  | nil => simp [splitOn]
  | cons c rest =>
    simp only [splitOn]
    split
    · simp
    · split <;> simp

/-- Cutting drops the separators and nothing else of the text. -/
theorem flatten_splitOn (separator : Char) (text : List Char) :
    (splitOn separator text).flatten = text.filter (· ≠ separator) := by
  induction text with
  | nil => rfl
  | cons c rest ih =>
    simp only [splitOn]
    split
    · next same => simp [same, ih]
    · next other =>
      split
      · next none => exact absurd none (splitOn_ne_nil separator rest)
      · next piece pieces cut =>
        rw [cut, List.flatten_cons] at ih
        simpa [other] using ih

/-- A line without the carriage return of a two-character line end. -/
def dropCarriageReturn (line : List Char) : List Char :=
  if line.getLast? = some '\r' then line.dropLast else line

/-- The lines of a text, on lists of characters. -/
def lineChars (text : List Char) : List (List Char) :=
  (splitOn '\n' (trim text)).map dropCarriageReturn

/-- The lines of a text: trimmed as a whole, then cut at line ends. -/
def lines (text : String) : List String := (lineChars text.toList).map String.ofList

/-- The items of a comma separated list, kept as written. -/
def commaSeparated (list : String) : List String :=
  (splitOn ',' list.toList).map String.ofList

/-- A text from its lines, with a line feed between each two. -/
def joinLines (lines : List String) : String := String.intercalate "\n" lines

end PropertyMangling.Text
