import PropertyMangling.Files
import PropertyMangling.Mapping
import PropertyMangling.ShortName
import PropertyMangling.TokenFile
/-!
# Giving names to tokens

The lines of a token file are taken in order of their texts. Every line that is
neither blank nor commented holds a token; a token without a name gets the next
free short name. Names that a seed mapping hands in are never changed, so a
mapping can be carried from run to run.
-/
namespace PropertyMangling.Mapping

/-- A line that holds a token to be named, blanks around it removed. -/
def isEligibleLine (line : List Char) : Bool :=
  !line.isEmpty && line.head? != some TokenFile.commentMarker

/-- The tokens to be named, in the order of their lines' texts. -/
def eligibleTokens (lines : List String) : Except Fault (List String) :=
  let trimmed := (Text.sorted lines).map fun line => Text.trim line.toList
  (trimmed.filter isEligibleLine).mapM fun line =>
    match TokenFile.tokenOf? (String.ofList line) with
    | some token => .ok token
    | none => .error (.lineWithoutToken (String.ofList line))

/-- Gives the next free short name to every token that has none. -/
def nameTokens (mapping : Mapping) (allocator : ShortName.Allocator) :
    List String → Except Fault Mapping
  | [] => .ok mapping
  | token :: rest =>
    match mapping.get? token with
    | some _ => nameTokens mapping allocator rest
    | none => do
      let (name, allocator) := allocator.allocate mapping.names
      let mapping ← mapping.insert token name
      nameTokens mapping allocator rest

/-- The seed mapping together with a name for every eligible token. -/
def assigned (seed lines : List String) : Except Fault Mapping := do
  let mapping ← ofEntries seed
  let tokens ← eligibleTokens lines
  nameTokens mapping {} tokens

/-- The entries of the seed mapping together with a name for every eligible token. -/
def assign (seed lines : List String) : Except Fault (List String) := do
  return (← assigned seed lines).entries

/-- Where the entries and lines of an assignment come from. -/
structure Request where
  /-- Seed entries given in place. -/
  entries : List String := []
  /-- A file of further seed entries. -/
  entriesFile? : Option String := none
  /-- Token lines given in place. -/
  tokens : List String := []
  /-- A file of further token lines. -/
  tokenFile? : Option String := none
deriving DecidableEq, Repr

/-- The lines of a file that need not be named. -/
def optionalLines (read : Reader) : Option String → Except Fault (List String)
  | none => .ok []
  | some path => read.lines path

/-- Assigns names after entries and lines given in place and in files. -/
def Request.run (request : Request) (read : Reader) : Except Fault (List String) := do
  let moreEntries ← optionalLines read request.entriesFile?
  let moreTokens ← optionalLines read request.tokenFile?
  assign (request.entries ++ moreEntries) (request.tokens ++ moreTokens)

end PropertyMangling.Mapping
