import PropertyMangling.Script.Grammar.Module
/-!
# Programs as texts

A text is read as a whole: an optional line that names an interpreter, then
items until the text ends. The comments in front of the first item are found
again from the text alone. What is read behind them depends on the text from the
first token on and on nothing in front of it.
-/
namespace PropertyMangling.Script

namespace Parse

/-- How each goal is reached when every goal can be reached one level further down. -/
def reachWith (self : Goal → Parse Node) : Goal → Parse Node
  | .expression => expression self
  | .assignment => assignment self
  | .power => powered self none
  | .unary => do return (← operand self none).1
  | .subject => subject self true none
  | .callee => subject self false none
  | .binding => bindingTarget self
  | .statement => statement self
  | .listed => listed self

/-- Reaches a goal in at most the given number of levels. -/
def reach : Nat → Goal → Parse Node
  | 0, _ => fail
  | levels + 1, goal => reachWith (reach levels) goal

/-- No text of so many words and other characters nests its parts more deeply: a level that reads
none of them is followed by one that does within this many. -/
def levelsFor (extent : Nat) : Nat := 8 * (extent + 2)

/-- Fails when what was read cannot stand together in one program. -/
def checkWhole : Parse Unit := do
  let state ← get
  require (!(state.isModule && state.scriptOnly))

/-- The items of a program from its first token to the end of the text, and where the last of them
ends. Positions count from one where the first token counts as opened. -/
def items (trivia : Trivia) (first : Cursor) (levels : Nat) : Parse (List Node × Nat) := do
  arrive trivia first 1 1
  let items ← itemsWithDirective (item (reach levels))
  checkWhole
  return (items, (← get).finished)

end Parse

/-- The characters of a line. -/
def lineOf (text : List Char) : List Char := text.takeWhile fun c => !isLineEnd c

/-- The line that names an interpreter, without its mark, and the place behind it. -/
def interpreterLine (text : List Char) : Option String × Cursor :=
  match text with
  | '#' :: '!' :: rest =>
    let line := lineOf rest
    (some (String.ofList line), (Cursor.mk text 1).skip (line.length + 2))
  | _ => (none, ⟨text, 1⟩)

/-- One more character: how many words and other characters there are so far, and whether a word may
go on. -/
def countCharacter (count : Nat × Bool) (c : Char) : Nat × Bool :=
  let part := isNamePart c
  (if count.2 && part then count.1 else count.1 + 1, part)

/-- How many words and other characters a text has. No token is without any of its own, but for a name
directly behind a large whole number; how long the words are does not matter. -/
def extentOf (text : List Char) : Nat := (text.foldl countCharacter (0, false)).1

/-- Counting on from a count comes to no less, since characters are only added. -/
theorem le_foldl_countCharacter (text : List Char) (count : Nat × Bool) :
    count.1 ≤ (text.foldl countCharacter count).1 := by
  induction text generalizing count with
  | nil => exact Nat.le_refl _
  | cons c rest inductionHypothesis =>
    refine Nat.le_trans ?_ (inductionHypothesis (countCharacter count c))
    unfold countCharacter
    dsimp only
    split
    · exact Nat.le_refl _
    · exact Nat.le_succ _

/-- The first character of a text counts, whatever it is, so that a text with any has an extent. -/
theorem extentOf_pos (c : Char) (rest : List Char) : 0 < extentOf (c :: rest) :=
  le_foldl_countCharacter rest (1, isNamePart c)

/-- What stands in front of the first token of a text. -/
structure Opening where
  interpreter? : Option String
  /-- Behind the line of the interpreter. -/
  place : Cursor
  trivia : Trivia
  /-- Where the first token starts. -/
  first : Cursor

/-- What stands in front of the first token, unless a comment there does not end. -/
def opening? (source : String) : Option Opening := do
  let (interpreter?, place) := interpreterLine source.toList
  let (trivia, first) ← place.trivia true
  return ⟨interpreter?, place, trivia, first⟩

namespace Opening

/-- The position that counts as the start of the first token. -/
def origin (opening : Opening) : Nat := opening.trivia.document?.getD opening.first.position

/-- The items behind an opening, and where the last of them ends. Only the text from the first token
on is read for them. -/
def items (opening : Opening) : Except SyntaxError (List Node × Nat) := do
  let text := opening.first.text
  let first : Cursor := ⟨text, 1 + (opening.first.position - opening.origin)⟩
  let scope : Scope := { size := extentOf text }
  let (answer, _) ← Parse.items opening.trivia first (Parse.levelsFor (extentOf text)) scope {}
  return answer

end Opening

/-- Reads a program. -/
def Program.parse (source : String) : Except SyntaxError Program :=
  match opening? source with
  | none => .error ⟨1⟩
  | some opening =>
    let lead := opening.origin - 1
    match opening.items with
    | .error error => .error ⟨lead + error.position⟩
    | .ok (items, finished) =>
      let lo := if opening.interpreter?.isSome || items.isEmpty then 1 else opening.origin
      let hi := if items.isEmpty then opening.place.position else lead + finished
      .ok ⟨⟨lo, max lo hi⟩, lead, opening.interpreter?, items⟩

/-- A comment with its marks; a line comment ends its line. -/
def Comment.render (comment : Comment) : String :=
  match comment.kind with
  | .line => "//" ++ comment.text ++ "\n"
  | .block => "/*" ++ comment.text ++ "*/"

/-- The comments in front of the first token behind the interpreter's line. -/
def openingComments (source : String) : List Comment :=
  (opening? source).elim [] fun opening => opening.trivia.comments

/-- The line of the interpreter as it stands in a program. -/
def interpreterText : Option String → String
  | some line => "#!" ++ line ++ "\n"
  | none => ""

/-- What stands in front of the first item of a program: the interpreter's line, and the comments
unless there is no item. -/
def Program.leadingText (program : Program) (source : String) : String :=
  let comments := if program.items.isEmpty then [] else openingComments source
  interpreterText program.interpreter? ++ String.join (comments.map Comment.render)

end PropertyMangling.Script
