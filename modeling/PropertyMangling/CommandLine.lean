import PropertyMangling.Pipeline
import PropertyMangling.Review
/-!
# The command line

Four commands work on files that the arguments name. Arguments that fit no
command are a mistake in the use of the program, which is told from a failure by
its exit code. A command answers with the text to print, or with a failure whose
causes are printed on one line.
-/
namespace PropertyMangling.CommandLine

/-- The name and the version of the program. -/
def version : String := "imt 0.1.0"

/-- What a command accepts. -/
structure Form where
  hasInput : Bool
  /-- Options with a path behind them. -/
  paths : List String := []
  /-- Options with a text behind them. -/
  texts : List String := []
  flags : List String := []
  /-- One-letter flags and the flags they stand for. -/
  letters : List (Char × String) := []

/-- What was given to a command. -/
structure Given where
  inputs : List String := []
  values : List (String × String) := []
  flags : List String := []

namespace Form

/-- Whether an option has a value. -/
def isValued (form : Form) (option : String) : Bool :=
  form.paths.contains option || form.texts.contains option

/-- Adds an input; a command takes one at most, and it is not empty. -/
def addInput (form : Form) (given : Given) (input : String) : Option Given :=
  if form.hasInput && given.inputs.isEmpty && !input.isEmpty then
    some { given with inputs := [input] }
  else none

/-- Adds an option with its value, once; a path is not empty. -/
def addValue (form : Form) (given : Given) (option value : String) : Option Given :=
  if !form.isValued option || (given.values.lookup option).isSome then none
  else if form.paths.contains option && value.isEmpty then none
  else some { given with values := (option, value) :: given.values }

/-- Adds a flag, once. -/
def addFlag (form : Form) (given : Given) (flag : String) : Option Given :=
  if form.flags.contains flag && !given.flags.contains flag then
    some { given with flags := flag :: given.flags }
  else none

/-- Adds the flags that letters behind one dash stand for. -/
def addLetters (form : Form) (given : Given) (letters : List Char) : Option Given :=
  letters.foldlM (fun given letter => do form.addFlag given (← form.letters.lookup letter)) given

/-- The name of an option and the value written behind an equals sign. -/
def splitOption (text : List Char) : String × Option String :=
  let name := text.takeWhile (· != '=')
  match text.drop name.length with
  | [] => (String.ofList name, none)
  | _ :: value => (String.ofList name, some (String.ofList value))

/-- Whether an argument is an option and no value. -/
def isOption (argument : String) : Bool :=
  match argument.toList with
  | '-' :: _ :: _ => true
  | _ => false

/-- Reads the arguments of a command. Behind two dashes everything is input. -/
def read (form : Form) (given : Given) : List String → Option Given
  | [] => some given
  | argument :: rest =>
    match argument.toList with
    | ['-', '-'] => rest.foldlM form.addInput given
    | '-' :: '-' :: text =>
      match splitOption text with
      | (option, some value) => do read form (← form.addValue given option value) rest
      | (option, none) =>
        if form.isValued option then
          match rest with
          | value :: rest =>
            if isOption value then none else do read form (← form.addValue given option value) rest
          | [] => none
        else do read form (← form.addFlag given option) rest
    | '-' :: c :: letters => do read form (← form.addLetters given (c :: letters)) rest
    | _ => do read form (← form.addInput given argument) rest

end Form

/-- A command with everything it needs. -/
inductive Command where
  | minify (input : String) (config? : Option String) (verbose : Bool)
  | tokens (input : String)
  | tokenFile (input : String) (review : Review)
  | mapping (request : Mapping.Request)
  | version

/-- The items of a list that may be left out. -/
def listOf (list? : Option String) : List String := (list?.map Text.commaSeparated).getD []

/-- A count of at most 64 bits. -/
def count? (text : String) : Option Nat :=
  let digits := match text.toList with
    | '+' :: digits => digits
    | digits => digits
  if digits.isEmpty || !digits.all Char.isDigit then none
  else
    let value := digits.foldl (fun value digit => value * 10 + (digit.toNat - 48)) 0
    if value < Nat.pow 2 64 then some value else none

/-- The arguments of the command that shortens a program. -/
def minifyForm : Form :=
  { hasInput := true, paths := ["config"], flags := ["verbose"], letters := [('v', "verbose")] }

/-- The arguments of the command that lists the tokens of a program. -/
def tokensForm : Form := { hasInput := true }

/-- The arguments of the command that keeps a file of tokens. -/
def tokenFileForm : Form :=
  { hasInput := true
    paths := ["tokenfile"]
    texts := ["tokens", "reserved-names", "min-length"]
    flags := ["diff"] }

/-- The arguments of the command that gives names to tokens; it reads no program. -/
def mappingForm : Form :=
  { hasInput := false, paths := ["mapping-file", "tokenfile"], texts := ["mapping", "tokens"] }

/-- Whether an argument in front of a command asks for the version: written out, or as the first of
the letters behind one dash. -/
def asksForVersion (argument : String) : Bool :=
  match argument.toList with
  | '-' :: 'V' :: _ => true
  | _ => argument == "--version"

/-- The command that arguments give. -/
def command? : List String → Option Command
  | "minify" :: arguments => do
    let given ← minifyForm.read {} arguments
    return .minify (← given.inputs.head?) (given.values.lookup "config")
      (given.flags.contains "verbose")
  | "tokens" :: arguments => do
    let given ← tokensForm.read {} arguments
    return .tokens (← given.inputs.head?)
  | "tokenfile" :: arguments => do
    let given ← tokenFileForm.read {} arguments
    let minLength ← match given.values.lookup "min-length" with
      | some text => count? text
      | none => some defaultMinLength
    return .tokenFile (← given.inputs.head?) {
      tokenFile? := given.values.lookup "tokenfile"
      lines := listOf (given.values.lookup "tokens")
      reservedNames := listOf (given.values.lookup "reserved-names")
      minLength := minLength
      wantsDiff := given.flags.contains "diff" }
  | "mapping" :: arguments => do
    let given ← mappingForm.read {} arguments
    return .mapping {
      entries := listOf (given.values.lookup "mapping")
      entriesFile? := given.values.lookup "mapping-file"
      tokens := listOf (given.values.lookup "tokens")
      tokenFile? := given.values.lookup "tokenfile" }
  | argument :: _ => if asksForVersion argument then some .version else none
  | [] => none

/-- Why a command fails. -/
inductive CommandFailure where
  | run (failure : Failure)
  | unreadableInput (path : String) (reason : ReadFault)

/-- The messages of a failure and of what caused it, outermost first. -/
def CommandFailure.chain : CommandFailure → List String
  | run failure => failure.chain
  | unreadableInput path reason => ["failed to read " ++ path, reason.message]

/-- The text of a command's input. -/
def readInput (read : Reader) (path : String) : Except CommandFailure String :=
  match read path with
  | .ok text => .ok text
  | .error reason => .error (.unreadableInput path reason)

/-- Passes the failure of a run on. -/
def running {α : Type} : Except Failure α → Except CommandFailure α
  | .ok value => .ok value
  | .error failure => .error (.run failure)

/-- Lines, each with its end. -/
def linesText (lines : List String) : String := String.join (lines.map fun line => line ++ "\n")

/-- The options of a run; without a file they are the default ones. -/
def optionsOf (read : Reader) (config? : Option String) (verbose : Bool) :
    Except Failure Options := do
  let options ← match config? with
    | some path => readOptions read path
    | none => pure {}
  return { options with verbose := options.verbose || verbose }

namespace Command

/-- The text that a command prints. -/
def output (read : Reader) : Command → Except CommandFailure String
  | minify input config? verbose => do
    let options ← running (optionsOf read config? verbose)
    let source ← readInput read input
    let content ← running (transform options {} read source).result
    return content ++ "\n"
  | tokens input => do
    let source ← readInput read input
    let program ← running (readProgram source)
    return linesText (program.tokens defaultMarker)
  | tokenFile input review => do
    let source ← readInput read input
    return linesText (← running (review.run read source))
  | mapping request => do
    return linesText (← running (orFail (request.run read)))
  | version => return CommandLine.version ++ "\n"

/-- The files that a command may read, as far as the files that can be read already tell. -/
def paths (read : Reader) : Command → List String
  | minify input config? verbose =>
    let named := match optionsOf read config? verbose with
      | .ok options => options.mangling.tokenFile?.toList
      | .error _ => []
    input :: (config?.toList ++ named)
  | tokens input => [input]
  | tokenFile input review => input :: review.tokenFile?.toList
  | mapping request => request.entriesFile?.toList ++ request.tokenFile?.toList
  | version => []

end Command

/-- What the program does in the end. -/
structure Outcome where
  code : Nat
  stdout : String := ""
  stderr : String := ""
deriving DecidableEq, Repr

/-- Runs the command that arguments give. -/
def run (read : Reader) (arguments : List String) : Outcome :=
  match command? arguments with
  | none => { code := 2, stderr := "error: invalid arguments" }
  | some command =>
    match command.output read with
    | .ok text => { code := 0, stdout := text }
    | .error failure => { code := 1, stderr := "error: " ++ String.intercalate ": " failure.chain }

end PropertyMangling.CommandLine
