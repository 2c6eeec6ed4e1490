import PropertyMangling.Fault
import PropertyMangling.Text.Lines
import PropertyMangling.Text.Utf8
/-!
# A tree of files

Paths are relative to the root of the tree and read component by component: an
empty component or a dot stays where it is, two dots go up, and every step needs
a directory to start from. Directories above a file exist by themselves. The
directories that the tree stands in exist too, and nothing else is known there.
-/
namespace PropertyMangling

/-- What stands at a path. -/
inductive Stored where
  | file (bytes : List UInt8)
  | directory
deriving DecidableEq, Repr

/-- A tree of files: what stands at each named place, a place being its path from the root. -/
structure Files where
  stored : List (List String × Stored) := []

namespace Files

/-- The components of a path that lead somewhere. -/
def components (path : String) : List String :=
  (Text.splitOn '/' path.toList).map String.ofList

/-- The place that a written path names when it is used to store something. -/
def placeOf (path : String) : List String :=
  (components path).filter fun component => component ≠ "" && component ≠ "."

/-- A tree from written paths. -/
def ofList (items : List (String × Stored)) : Files :=
  ⟨items.map fun (path, stored) => (placeOf path, stored)⟩

/-- What stands at a place; a place above a stored one is a directory, and so is the root. -/
def at? (files : Files) (place : List String) : Option Stored :=
  match files.stored.lookup place with
  | some stored => some stored
  | none =>
    if place.isEmpty || files.stored.any fun (other, _) => place.isPrefixOf other then
      some .directory
    else none

/-- Follows components from a directory that the tree stands in. -/
def walkOutside : List String → Except ReadFault Stored
  | [] => .ok .directory
  | component :: rest =>
    if ["", ".", ".."].contains component then walkOutside rest else .error .notFound

/-- Follows components from a place. -/
def walk (files : Files) : List String → List String → Except ReadFault Stored
  | place, [] => (files.at? place).elim (.error .notFound) .ok
  | place, component :: rest =>
    match files.at? place with
    | none => .error .notFound
    | some (.file _) => .error .notADirectory
    | some .directory =>
      if component = "" || component = "." then walk files place rest
      else if component = ".." then
        if place.isEmpty then walkOutside rest else walk files place.dropLast rest
      else walk files (place ++ [component]) rest

/-- What stands at a written path. -/
def find (files : Files) (path : String) : Except ReadFault Stored :=
  if path.isEmpty then .error .notFound
  else if path.toList.head? == some '/' then walkOutside (components path)
  else files.walk [] (components path)

/-- The text of a file of the tree. -/
def read (files : Files) : Reader := fun path => do
  match ← files.find path with
  | .directory => throw .isADirectory
  | .file bytes =>
    match Text.decodeUtf8? bytes with
    | some text => return String.ofList text
    | none => throw .invalidText

end Files

/-- The lines of a configured file. -/
def Reader.lines (read : Reader) (path : String) : Except Fault (List String) := do
  return Text.lines (← read.configured path)

end PropertyMangling
