import PropertyMangling.Text.Order
import PropertyMangling.TokenFile
/-!
# Merging a reviewed token file with a fresh one

Both lists are put in token order and walked side by side. A token on both
sides keeps the line that the reviewer saw; a token on one side only was added or
removed since. Tokens that occur several times are paired one to one.
-/
namespace PropertyMangling.TokenFile

/-- What became of an entry between the reviewed file and the fresh list. -/
inductive Change where
  | kept (entry : Entry)
  | added (entry : Entry)
  | removed (entry : Entry)
deriving DecidableEq, Repr

/-- The line that a change leaves in the merged file. -/
def Change.current? : Change → Option String
  | kept entry => some entry.message
  | added entry => some entry.message
  | removed _ => none

/-- The line of a change and the sign it has in the difference. -/
def Change.signed? : Change → Option (Char × String)
  | kept _ => none
  | added entry => some ('+', entry.message)
  | removed entry => some ('-', entry.message)

/-- Walks two lists in token order; of two entries with one token the existing one is kept. -/
def align : List Entry → List Entry → List Change
  | [], fresh => fresh.map .added
  | existing, [] => existing.map .removed
  | old :: existing, new :: fresh =>
    if old.token = new.token then .kept old :: align existing fresh
    else if new.token < old.token then .added new :: align (old :: existing) fresh
    else .removed old :: align existing (new :: fresh)
termination_by existing fresh => existing.length + fresh.length

/-- A merged token file. -/
structure Merged where
  /-- Every current line, in order. -/
  whole : List String
  /-- The lines that were added or removed, each behind its sign, in the order of their texts. -/
  diff : List String
deriving DecidableEq, Repr

/-- Merges the entries of a reviewed file with fresh ones. -/
def merge (existing fresh : List Entry) : Merged :=
  let changes := align (Text.sortBy Entry.token existing) (Text.sortBy Entry.token fresh)
  let signed := Text.sortBy Prod.snd (changes.filterMap Change.signed?)
  { whole := Text.sorted (changes.filterMap Change.current?)
    diff := signed.map fun (sign, line) => String.ofList [sign, ' '] ++ line }

end PropertyMangling.TokenFile
