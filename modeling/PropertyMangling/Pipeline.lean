import PropertyMangling.Mapping.Assignment
import PropertyMangling.Failure
import PropertyMangling.Property.Renaming
import PropertyMangling.Script.Listing
import PropertyMangling.Text.Packing
/-!
# The pipeline

The configuration is checked before anything runs. The program then passes
through the stages that are enabled, each of them a collaborator that answers
with a program or rejects the one it got; the first rejection ends the run. At last
the program is written in the way the options ask for. A run also tells which
calls it made, in their order, and what program each of them was handed.
-/
namespace PropertyMangling

open Script

/-- Everything a renaming engine is told. -/
structure MangleRequest where
  toplevel : Bool
  defines : List (String × Json.Value)
  /-- Names that keep their spelling. -/
  except : List String
  keepFunctions : Bool
  uniquely : Bool
  ignoreEval : Bool
  mapping : Mapping
  /-- Variables that are renamed inside embedded code as well. -/
  varsInString : List String
  marker : String

/-- Everything an optimiser is told. -/
structure SqueezeRequest where
  makeSequences : Bool
  deadCode : Bool
  /-- Comparisons stay as they are written. -/
  keepComparisons : Bool
deriving DecidableEq, Repr

/-- What a stage does to a program. -/
abbrev Pass := Program → Except Causes Program

/-- An optimiser. Its further pass runs in aggressive mode only. -/
structure Squeezer where
  squeeze : SqueezeRequest → Pass
  squeezeMore : Pass := fun program => .ok program

/-- Renames properties after the mapping of the request. -/
def renameProperties (request : MangleRequest) : Pass := fun program =>
  .ok (program.rename ⟨request.mapping, request.marker⟩).value

/-- The engines that a program is handed to. Only the renaming of properties is built in. -/
structure Collaborators where
  consolidate? : Option Pass := none
  liftVars? : Option Pass := none
  mangle? : Option (MangleRequest → Pass) := some renameProperties
  squeeze? : Option Squeezer := none

/-- A call of a collaborator. -/
inductive Call where
  | consolidate
  | liftVars
  | mangle (request : MangleRequest)
  | squeeze (request : SqueezeRequest)
  | squeezeMore

/-- The stage that a call belongs to. -/
def Call.stage : Call → String
  | consolidate => "consolidate"
  | liftVars => "lift"
  | mangle _ => "mangle"
  | squeeze _ => "squeeze"
  | squeezeMore => "squeeze"

/-- A call that is going to be made. -/
structure Step where
  call : Call
  pass : Pass

/-- Makes calls one after the other, each with the program that the last one answered with, until one
fails. Tells which calls were made, and with which programs. -/
def runSteps : List Step → Program → List (Call × Program) × Except Failure Program
  | [], program => ([], .ok program)
  | step :: rest, program =>
    match step.pass program with
    | .error causes => ([(step.call, program)], .error (.stage step.call.stage causes))
    | .ok answer =>
      let (handed, result) := runSteps rest answer
      ((step.call, program) :: handed, result)

/-- The collaborator of a stage that is enabled. -/
def required {α : Type} (enabled : Bool) (stage : String) (collaborator? : Option α) :
    Except Failure (Option α) :=
  if !enabled then .ok none
  else
    match collaborator? with
    | some collaborator => .ok (some collaborator)
    | none => .error (.missingCollaborator stage)

namespace Options

/-- What a renaming engine is told in a run. -/
def mangleRequest (options : Options) (mapping : Mapping) (vars : List String) : MangleRequest where
  toplevel := options.mangling.toplevel
  defines := options.mangling.defines
  except := options.mangling.reservedNames
  keepFunctions := options.mangling.keepFunctions
  uniquely := options.mangling.uniquely
  ignoreEval := options.mangling.ignoreEval
  mapping := mapping
  varsInString := vars
  marker := options.marker

/-- What an optimiser is told in a run. -/
def squeezeRequest (options : Options) : SqueezeRequest where
  makeSequences := options.squeezing.makeSequences
  deadCode := options.squeezing.deadCode
  keepComparisons := !options.squeezing.aggressive

/-- The variables that are renamed inside embedded code: those of the options, and when names are
mangled those of the token file too. -/
def varsInString (options : Options) (read : Reader) : Except Fault (List String) := do
  let more ← if options.mangle then Mapping.optionalLines read options.mangling.tokenFile?
    else pure []
  return options.mangling.varsInString ++ more

/-- The collaborators of the enabled stages, every one of which has to be there. -/
def enabled (options : Options) (collaborators : Collaborators) :
    Except Failure Collaborators := do
  let consolidate? ← required options.consolidate "consolidate" collaborators.consolidate?
  let liftVars? ← required options.liftVars "lift_vars" collaborators.liftVars?
  let mangle? ← required options.mangle "mangle" collaborators.mangle?
  let squeeze? ← required options.squeeze "squeeze" collaborators.squeeze?
  return ⟨consolidate?, liftVars?, mangle?, squeeze?⟩

/-- The calls of an optimiser. -/
def squeezeSteps (options : Options) (squeezer : Squeezer) : List Step :=
  let request := options.squeezeRequest
  let more := if options.squeezing.aggressive then [⟨.squeezeMore, squeezer.squeezeMore⟩] else []
  ⟨.squeeze request, squeezer.squeeze request⟩ :: more

/-- The calls of the enabled collaborators. -/
def steps (options : Options) (enabled : Collaborators) (request : MangleRequest) : List Step :=
  (enabled.consolidate?.map (Step.mk .consolidate)).toList ++
    (enabled.liftVars?.map (Step.mk .liftVars)).toList ++
    (enabled.mangle?.map fun mangle => Step.mk (.mangle request) (mangle request)).toList ++
    enabled.squeeze?.elim [] options.squeezeSteps

/-- The length that lines are packed to, if they are. -/
def packingLimit? (options : Options) : Option Nat :=
  match options.maxLineLength? with
  | some limit => if !options.beautify && 0 < limit then some limit else none
  | none => none

/-- The text of a program without its blank end. -/
def trimmedEnd (text : String) : String := String.ofList (Text.trimRight text.toList)

/-- The items of a program as statements that can be put behind each other. -/
def statementsOf (style : Style) (program : Program) : List String :=
  (program.printItems style).map Text.trimmed

/-- The code of a program, in lines or as a whole. -/
def code (options : Options) (program : Program) : String :=
  let style := if options.beautify then Style.readable else Style.compact
  match options.packingLimit? with
  | some limit => Text.packLines limit (statementsOf style program)
  | none => trimmedEnd (program.print style)

/-- What a run answers with: the listing of the program, or its code behind what stood in front of
the source. -/
def output (options : Options) (leading : String) (program : Program) : String :=
  if options.ast then program.listed
  else (if options.showCopyright then leading else "") ++ options.code program

end Options

/-- What a run did. -/
structure Run where
  /-- The calls that were made, each with the program that it was handed. -/
  handed : List (Call × Program)
  result : Except Failure String

/-- The calls of a run. -/
def Run.calls (run : Run) : List Call := run.handed.map Prod.fst

/-- Everything that is checked before the first call: the calls to make, and the program. -/
def prepare (options : Options) (collaborators : Collaborators) (read : Reader) (source : String) :
    Except Failure (List Step × Program) := do
  let enabled ← options.enabled collaborators
  let mapping ← orFail (Mapping.ofEntries options.mangling.propertyMaps)
  let vars ← orFail (options.varsInString read)
  let program ← readProgram source
  return (options.steps enabled (options.mangleRequest mapping vars), program)

/-- Runs the configured stages over a source. -/
def transform (options : Options) (collaborators : Collaborators) (read : Reader)
    (source : String) : Run :=
  match prepare options collaborators read source with
  | .error failure => ⟨[], .error failure⟩
  | .ok (steps, program) =>
    let (handed, result) := runSteps steps program
    ⟨handed, result.map (options.output (program.leadingText source))⟩

end PropertyMangling
