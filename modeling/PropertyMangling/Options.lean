import PropertyMangling.Files
import PropertyMangling.Json.Reading
/-!
# Options of a run

Options are read from an object of an option file. A key that is left out keeps
its default, a key that no option has is ignored, and an option given twice, or
with a value of another type than its own, makes the whole file invalid.
-/
namespace PropertyMangling

/-- String literals that start with this are treated as code. -/
def defaultMarker : String := "/**/"

/-- What a renaming engine is told. -/
structure MangleOptions where
  toplevel : Bool := false
  /-- Symbolic constants to put in. -/
  defines : List (String × Json.Value) := []
  /-- Names that keep their spelling. -/
  reservedNames : List String := []
  keepFunctions : Bool := false
  uniquely : Bool := false
  ignoreEval : Bool := false
  /-- Entries of the mapping for property names. -/
  propertyMaps : List String := []
  /-- Variables that are renamed inside embedded code as well. -/
  varsInString : List String := []
  /-- A file with more of these. -/
  tokenFile? : Option String := none

/-- What an optimiser is told. -/
structure SqueezeOptions where
  makeSequences : Bool := true
  deadCode : Bool := true
  /-- Allows passes that may change what a program does. -/
  aggressive : Bool := false
deriving DecidableEq, Repr

/-- Options of a run. -/
structure Options where
  consolidate : Bool := false
  liftVars : Bool := false
  mangle : Bool := false
  mangling : MangleOptions := {}
  squeeze : Bool := false
  squeezing : SqueezeOptions := {}
  /-- Answer with the listing of the syntax tree instead of code. -/
  ast : Bool := false
  beautify : Bool := false
  maxLineLength? : Option Nat := none
  showCopyright : Bool := false
  verbose : Bool := false
  marker : String := defaultMarker

namespace Options

/-- Reads a value of one type; none when the value has another. -/
abbrev Decoder (α : Type) := Json.Value → Option α

/-- A truth value. -/
def boolean : Decoder Bool
  | .boolean value => some value
  | _ => none

/-- A text. -/
def text : Decoder String
  | .string value => some value
  | _ => none

/-- A list of texts, all of which must be texts. -/
def texts : Decoder (List String)
  | .list items => items.mapM text
  | _ => none

/-- A text, or none where the value is null. -/
def optionalText : Decoder (Option String)
  | .null => some none
  | .string value => some (some value)
  | _ => none

/-- A count of at most 64 bits, or none. -/
def optionalCount : Decoder (Option Nat)
  | .null => some none
  | .integer value => if 0 ≤ value then some (some value.toNat) else none
  | _ => none

/-- The members of an object, the last of each key. -/
def object : Decoder (List (String × Json.Value))
  | .object members => some (Json.lastMembers members)
  | _ => none

/-- The value of an option that may be written under several keys, or its default. -/
def field {α : Type} (members : List (String × Json.Value)) (keys : List String)
    (decode : Decoder α) (default : α) : Option α :=
  match members.filter fun member => keys.contains member.1 with
  | [] => some default
  | [member] => decode member.2
  | _ => none

/-- The options that the members of an object give. -/
def ofMembers? (members : List (String × Json.Value)) : Option Options := do
  let flag := fun (key : String) (default : Bool) => field members [key] boolean default
  let list := fun (keys : List String) => field members keys texts []
  return {
    consolidate := ← flag "consolidate" false
    liftVars := ← flag "lift_vars" false
    mangle := ← flag "mangle" false
    mangling := {
      toplevel := ← flag "toplevel" false
      defines := ← field members ["defines"] object []
      reservedNames := ← list ["reserved_names", "except"]
      keepFunctions := ← flag "no_mangle_functions" false
      uniquely := ← flag "mangle_uniquely" false
      ignoreEval := ← flag "ignore_eval" false
      propertyMaps := ← list ["property_maps"]
      varsInString := ← list ["vars_in_string"]
      tokenFile? := ← field members ["tokenfile"] optionalText none }
    squeeze := ← flag "squeeze" false
    squeezing := {
      makeSequences := ← flag "make_seqs" true
      deadCode := ← flag "dead_code" true
      aggressive := ← flag "unsafe" false }
    ast := ← flag "ast" false
    beautify := ← flag "beautify" false
    maxLineLength? := ← field members ["max_line_length"] optionalCount none
    showCopyright := ← flag "show_copyright" false
    verbose := ← flag "verbose" false
    marker := ← field members ["embedded_code_marker"] text defaultMarker }

/-- The options that a value gives, which has to be an object. -/
def ofValue? : Json.Value → Option Options
  | .object members => ofMembers? members
  | _ => none

/-- The options that an option file's text gives. -/
def parse? (text : String) : Option Options := do ofValue? (← Json.read? text)

end Options

end PropertyMangling
