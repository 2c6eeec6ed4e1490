/-!
# Marks on a page

A printed program is a sequence of marks: texts, line ends, and changes of
indentation. A line end at the start of a line is no second one, and
indentation is written in front of the first text of a line.
-/
namespace PropertyMangling.Script

/-- How a program is printed. -/
inductive Style where
  /-- As few characters as possible. -/
  | compact
  /-- One statement, element or property a line. -/
  | readable
deriving DecidableEq, Repr

/-- The smallest unit of printed text. -/
inductive Mark where
  | text (text : String)
  | line
  | indent
  | outdent
deriving DecidableEq, Repr

/-- A page under way. -/
structure Page where
  /-- What is written, last character first. -/
  written : List Char := []
  level : Nat := 0
  atLineStart : Bool := true

/-- Four spaces for each level. -/
def indentation (level : Nat) : List Char := List.replicate (4 * level) ' '

/-- Writes one mark. -/
def Page.write (page : Page) : Mark → Page
  | .text text =>
    if text.isEmpty then page
    else
      let lead := if page.atLineStart then indentation page.level else []
      { page with
        written := text.toList.reverse ++ (lead ++ page.written), atLineStart := false }
  | .line =>
    if page.atLineStart then page
    else { page with written := '\n' :: page.written, atLineStart := true }
  | .indent => { page with level := page.level + 1 }
  | .outdent => { page with level := page.level - 1 }

/-- The text of marks on an empty page. -/
def render (marks : List Mark) : String :=
  String.ofList (marks.foldl Page.write {}).written.reverse

namespace Style

/-- A space that only reading asks for. -/
def gap : Style → List Mark
  | compact => []
  | readable => [.text " "]

/-- A line end, which only reading asks for. -/
def newLine : Style → List Mark
  | compact => []
  | readable => [.line]

/-- A space where two words would run together, and where reading asks for one. -/
def gapBefore (style : Style) (startsWithWord : Bool) : List Mark :=
  if startsWithWord then [.text " "] else style.gap

/-- Marks one level further in; the level changes in both styles, and shows in one. -/
def indented (marks : List Mark) : List Mark := .indent :: marks ++ [.outdent]

end Style

/-- A text as marks. -/
def txt (text : String) : List Mark := [.text text]

/-- Pieces with marks between each two. -/
def sepBy (between : List Mark) : List (List Mark) → List Mark
  | [] => []
  | [piece] => piece
  | piece :: rest => piece ++ between ++ sepBy between rest

end PropertyMangling.Script
