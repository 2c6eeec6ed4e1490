import PropertyMangling.Fault
import PropertyMangling.Options
import PropertyMangling.Script.Parsing
/-!
# Why a run fails

A run fails on its configuration, on the program it is given, or in one of the stages that it hands the
program to. A stage says why in a list of causes, outermost first.
-/
namespace PropertyMangling

/-- Why a stage rejects a program, outermost cause first. -/
abbrev Causes := List String

/-- Why a run fails. -/
inductive Failure where
  | configuration (fault : Fault)
  | invalidOptions
  | missingCollaborator (name : String)
  | invalidProgram (error : Script.SyntaxError)
  | stage (name : String) (causes : Causes)
deriving DecidableEq, Repr

namespace Failure

/-- The wording of a failure. -/
def message : Failure → String
  | configuration fault => fault.message
  | invalidOptions => "invalid options"
  | missingCollaborator name => name ++ " is enabled but no collaborator is registered for it"
  | invalidProgram _ => "parse error"
  | stage name causes => name ++ " failed: " ++ String.intercalate ": " causes

/-- The messages of a failure and of what caused it, outermost first. -/
def chain : Failure → List String
  | configuration fault => fault.chain
  | failure => [failure.message]

/-- Whether there is more to say about a failure than its message. -/
def hasDetail : Failure → Bool
  | invalidProgram _ | stage .. => true
  | _ => false

end Failure

/-- Passes a fault of the configuration on. -/
def orFail {α : Type} : Except Fault α → Except Failure α
  | .ok value => .ok value
  | .error fault => .error (.configuration fault)

/-- Reads a program for a run. -/
def readProgram (source : String) : Except Failure Script.Program :=
  match Script.Program.parse source with
  | .ok program => .ok program
  | .error error => .error (.invalidProgram error)

/-- Reads the options of a run from a file. -/
def readOptions (read : Reader) (path : String) : Except Failure Options := do
  let text ← orFail (read.configured path)
  match Options.parse? text with
  | some options => return options
  | none => throw .invalidOptions

end PropertyMangling
