import PropertyMangling.Text.Quoted
/-!
# What can be wrong with the configuration

Token files, mappings and the files that hold them are written by people. Each
way in which they can be wrong is a cause of its own; the wording of all of them
is in one place.
-/
namespace PropertyMangling

/-- Why a file could not be read as a text. -/
inductive ReadFault where
  | notFound
  | notADirectory
  | isADirectory
  | invalidText
deriving DecidableEq, Repr

/-- The system's wording of a read fault. -/
def ReadFault.message : ReadFault → String
  | .notFound => "No such file or directory (os error 2)"
  | .notADirectory => "Not a directory (os error 20)"
  | .isADirectory => "Is a directory (os error 21)"
  | .invalidText => "stream did not contain valid UTF-8"

/-- Whether the path leads nowhere at all. -/
def ReadFault.isMissing : ReadFault → Bool
  | .notFound | .notADirectory => true
  | .isADirectory | .invalidText => false

/-- Gives the text of a file, or why there is none. -/
abbrev Reader := String → Except ReadFault String

/-- A fault of a token file, a mapping or the reading of either. -/
inductive Fault where
  | missingFile (path : String)
  | unreadable (path : String) (reason : ReadFault)
  /-- A mapping entry without a token, a separator or a name. -/
  | malformedEntry (entry : String)
  /-- A mapping entry that would give a token two names, or a name two tokens. -/
  | conflictingEntry (entry existing : String)
  /-- A token file line without a character of an identifier. -/
  | lineWithoutToken (line : String)
deriving DecidableEq, Repr

/-- The wording of a fault. -/
def Fault.message : Fault → String
  | .missingFile path => "no such file: " ++ path
  | .unreadable path reason => "failed to read " ++ path ++ ": " ++ reason.message
  | .malformedEntry entry => "malformed mapping entry: " ++ Text.quoted entry
  | .conflictingEntry entry existing =>
    "mapping entry " ++ Text.quoted entry ++ " conflicts with " ++ Text.quoted existing
  | .lineWithoutToken line => "token file line has no token: " ++ Text.quoted line

/-- The messages of a fault and of what caused it, outermost first. -/
def Fault.chain (fault : Fault) : List String :=
  match fault with
  | .unreadable _ reason => [fault.message, reason.message]
  | _ => [fault.message]

/-- Reads a file that a person named in a configuration. -/
def Reader.configured (read : Reader) (path : String) : Except Fault String :=
  match read path with
  | .ok text => .ok text
  | .error reason => .error (if reason.isMissing then .missingFile path else .unreadable path reason)

end PropertyMangling
