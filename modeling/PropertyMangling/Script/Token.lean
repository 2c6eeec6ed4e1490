import PropertyMangling.Script.Character
import PropertyMangling.Script.Syntax
/-!
# Tokens and the text between them

The lexer walks a list of characters; what is left of the text is its state.
Whether a slash opens a regular expression, and whether a closing brace goes on
with a template, only the grammar knows: it asks for these two itself, at the
place where a token starts.
-/
namespace PropertyMangling.Script

/-- A place in the source: the characters that are left, and the position of the first of them. -/
structure Cursor where
  text : List Char
  position : Nat
deriving Repr, Inhabited

namespace Cursor

/-- The place behind some of the characters that are left. -/
def skip (cursor : Cursor) (count : Nat) : Cursor :=
  ⟨cursor.text.drop count, (cursor.text.take count).foldl (fun n c => n + c.utf8Size) cursor.position⟩

/-- The characters up to a later place. -/
def upTo (cursor later : Cursor) : List Char :=
  cursor.text.take (cursor.text.length - later.text.length)

/-- The characters up to a later place, as a text. -/
def slice (cursor later : Cursor) : String := String.ofList (cursor.upTo later)

/-- The place where some part of the characters that are left starts. -/
def skipTo (cursor : Cursor) (rest : List Char) : Cursor :=
  cursor.skip (cursor.text.length - rest.length)

end Cursor

/-- How a comment is written. -/
inductive CommentKind where
  | line
  | block
deriving DecidableEq, Repr

/-- A comment without its marks. -/
structure Comment where
  kind : CommentKind
  text : String
deriving DecidableEq, Repr

/-- What stands between two tokens. -/
structure Trivia where
  /-- A line ends somewhere in it. -/
  newline : Bool
  /-- Where the first comment in the marks of a document starts. Only scripts may have one, and it
  counts as the start of the token behind it. -/
  document? : Option Nat := none
  comments : List Comment := []
deriving Repr

/-- Where a walk through trivia is; a comment's characters are gathered backwards. -/
inductive TriviaPlace where
  | between
  | inLine (gathered : List Char)
  | inBlock (gathered : List Char)

/-- Adds a comment behind the others. -/
def Trivia.add (trivia : Trivia) (kind : CommentKind) (gathered : List Char) : Trivia :=
  { trivia with comments := trivia.comments ++ [⟨kind, String.ofList gathered.reverse⟩] }

/-- Notes a comment in the marks of a document. -/
def Trivia.addDocument (trivia : Trivia) (position : Nat) : Trivia :=
  { trivia with document? := some (trivia.document?.getD position) }

/-- Whether only blanks stand in front of a semicolon. -/
def isBeforeSemicolon (text : List Char) : Bool :=
  (text.dropWhile fun c => isLineEnd c || isSpace c).head? == some ';'

/-- Walks through white space and comments; none when a comment does not end. A block comment in
front of a semicolon belongs to what it ends, and is not gathered. -/
def Trivia.walk : TriviaPlace → Trivia → Nat → List Char → Option (Trivia × Cursor)
  | .between, trivia, position, '/' :: '/' :: rest =>
    walk (.inLine []) trivia (position + 2) rest
  | .between, trivia, position, '/' :: '*' :: rest =>
    walk (.inBlock []) trivia (position + 2) rest
  | .between, trivia, position, '<' :: '!' :: '-' :: '-' :: rest =>
    walk (.inLine []) (trivia.addDocument position) (position + 4) rest
  | .between, trivia, position, '-' :: '-' :: '>' :: rest =>
    if trivia.newline then
      walk (.inLine []) (trivia.addDocument position) (position + 3) rest
    else some (trivia, ⟨'-' :: '-' :: '>' :: rest, position⟩)
  | .between, trivia, position, c :: rest =>
    if isLineEnd c then walk .between { trivia with newline := true } (position + c.utf8Size) rest
    else if isSpace c then walk .between trivia (position + c.utf8Size) rest
    else some (trivia, ⟨c :: rest, position⟩)
  | .between, trivia, position, [] => some (trivia, ⟨[], position⟩)
  | .inLine gathered, trivia, position, c :: rest =>
    if isLineEnd c then
      walk .between { trivia.add .line gathered with newline := true } (position + c.utf8Size) rest
    else walk (.inLine (c :: gathered)) trivia (position + c.utf8Size) rest
  | .inLine gathered, trivia, position, [] => some (trivia.add .line gathered, ⟨[], position⟩)
  | .inBlock gathered, trivia, position, '*' :: '/' :: rest =>
    walk .between (if isBeforeSemicolon rest then trivia else trivia.add .block gathered)
      (position + 2) rest
  | .inBlock gathered, trivia, position, c :: rest =>
    walk (.inBlock (c :: gathered)) { trivia with newline := trivia.newline || isLineEnd c }
      (position + c.utf8Size) rest
  | .inBlock _, _, _, [] => none

/-- The trivia at a place and the place behind it. -/
def Cursor.trivia (cursor : Cursor) (atStart : Bool) : Option (Trivia × Cursor) :=
  Trivia.walk .between { newline := atStart } cursor.position cursor.text

/-- How a word is written. -/
inductive Spelling where
  /-- Without escapes. -/
  | plain
  /-- With an escape behind its first character. It means what the plain word means, and may be no
  reserved word. -/
  | escaped
  /-- With an escape as its first character, which makes it a name whatever its text is. -/
  | disguised
deriving DecidableEq, Repr, Inhabited

/-- The smallest unit of a script. -/
inductive Token where
  /-- A name or a word of the language, with its escapes resolved. -/
  | word (text : String) (spelling : Spelling)
  /-- A name directly behind its number sign. -/
  | privateName (text : String) (spelling : Spelling)
  /-- A number; one with an idle leading zero is legacy. -/
  | number (value : Binary64) (legacy : Bool)
  | bigint (value : Nat)
  /-- A string; one with an escape by octal digits is legacy. -/
  | string (value : String) (legacy : Bool)
  | symbol (text : String)
  | finish
deriving DecidableEq, Repr, Inhabited

/-- Operators and marks, longer ones before their beginnings. -/
def symbols : List (List Char) := [
  ">>>=", "...", "===", "!==", "**=", "<<=", ">>=", ">>>", "&&=", "||=", "??=", "=>", "==", "!=",
  "<=", ">=", "&&", "||", "??", "++", "--", "+=", "-=", "*=", "/=", "%=", "&=", "|=", "^=",
  "<<", ">>", "**", "\x7b", "\x7d", "(", ")", "[", "]", ".", ";", ",", "<", ">", "+", "-", "*",
  "/", "%", "&", "|", "^", "!", "~", "?", ":", "=", "`", "@", "#"].map String.toList

end PropertyMangling.Script
