import PropertyMangling.Classification
import PropertyMangling.Failure
import PropertyMangling.Mapping.Assignment
import PropertyMangling.Property.Collection
import PropertyMangling.TokenFile.Merge
/-!
# The token file of a program

The tokens of a program are classified and merged with the lines that people
have reviewed before. The answer is the whole new file, or the lines that were
added and removed.
-/
namespace PropertyMangling

/-- What a token file is made after. -/
structure Review where
  /-- A saved token file. -/
  tokenFile? : Option String := none
  /-- Further reviewed lines, behind those of the file. -/
  lines : List String := []
  reservedNames : List String := []
  minLength : Nat := defaultMinLength
  /-- Answer with the difference. -/
  wantsDiff : Bool := false
  marker : String := defaultMarker

namespace Review

/-- The entries of the reviewed lines. -/
def reviewed (review : Review) (read : Reader) : Except Fault (List TokenFile.Entry) := do
  let saved ← Mapping.optionalLines read review.tokenFile?
  TokenFile.parse (saved ++ review.lines)

/-- The entries of a program's tokens. -/
def fresh (review : Review) (program : Script.Program) : List TokenFile.Entry :=
  classifyTokens (.ofCustom review.reservedNames) review.minLength (program.tokens review.marker)

/-- The lines of the token file, or of the difference. -/
def run (review : Review) (read : Reader) (source : String) : Except Failure (List String) := do
  let existing ← orFail (review.reviewed read)
  let program ← readProgram source
  let merged := TokenFile.merge existing (review.fresh program)
  return if review.wantsDiff then merged.diff else merged.whole

end Review

end PropertyMangling
