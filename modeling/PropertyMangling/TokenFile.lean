import PropertyMangling.Fault
import PropertyMangling.Identifier
import PropertyMangling.Text.Blank
/-!
# Token files

A token file lists one token a line for people to review. A line that starts
with the comment marker keeps its token away from renaming; whatever else stands
on a line is a note for the reviewer. The token of a line is its first run of
identifier characters, and blank lines hold nothing.
-/
namespace PropertyMangling.TokenFile

/-- A line whose first character, blanks apart, is this keeps its token from being renamed. -/
def commentMarker : Char := '#'

/-- A token and the line that stands for it in the file. -/
structure Entry where
  token : String
  message : String
deriving DecidableEq, Repr, Inhabited

/-- A token that may be renamed stands alone on its line. -/
def Entry.eligible (token : String) : Entry := ⟨token, token⟩

/-- A token that stays as it is, with the reason behind it. -/
def Entry.excluded (token reason : String) : Entry :=
  ⟨token, String.ofList [commentMarker] ++ token ++ ": " ++ reason⟩

/-- Whether the characters of a line start with the marker, blanks apart. -/
def isCommented (line : List Char) : Bool := (Text.trimLeft line).head? = some commentMarker

/-- Whether the token of an entry is kept from being renamed. -/
def Entry.isExcluded (entry : Entry) : Bool := isCommented entry.message.toList

/-- The first run of identifier characters; empty when there is none. -/
def firstRun (line : List Char) : List Char :=
  (line.dropWhile fun c => !Identifier.isPart c).takeWhile Identifier.isPart

/-- The token of a line. -/
def tokenOf? (line : String) : Option String :=
  match firstRun line.toList with
  | [] => none
  | run => some (String.ofList run)

/-- The entry of a line, its message being the line as written. -/
def entryOf (line : String) : Except Fault Entry :=
  match tokenOf? line with
  | some token => .ok ⟨token, line⟩
  | none => .error (.lineWithoutToken line)

/-- The entries of a token file's lines, blank ones skipped. -/
def parse (lines : List String) : Except Fault (List Entry) :=
  (lines.filter fun line => !Text.isBlankText line.toList).mapM entryOf

end PropertyMangling.TokenFile
