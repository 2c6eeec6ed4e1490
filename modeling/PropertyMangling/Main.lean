import PropertyMangling.CommandLine
/-!
# The program

Reads the files that the arguments name, runs the command on what was read, and
prints its outcome.
-/
namespace PropertyMangling.CommandLine

/-- The system's number for a directory where a file is expected. -/
def directoryCode : UInt32 := 21

/-- The fault that an error of the system stands for. -/
def faultOf : IO.Error → ReadFault
  | .inappropriateType _ code _ => if code = directoryCode then .isADirectory else .notADirectory
  | _ => .notFound

/-- What reading a file gave. -/
def readFileOnce (path : String) : IO (String × Except ReadFault String) := do
  try
    let bytes ← IO.FS.readBinFile path
    match Text.decodeUtf8? bytes.toList with
    | some text => return (path, .ok (String.ofList text))
    | none => return (path, .error .invalidText)
  catch error => return (path, .error (faultOf error))

/-- A reader of files that have been read before. -/
def readerOf (files : List (String × Except ReadFault String)) : Reader := fun path =>
  (files.lookup path).getD (.error .notFound)

/-- The paths that arguments name, as far as a reader can tell. -/
def pathsOf (arguments : List String) (read : Reader) : List String :=
  ((command? arguments).map fun command => command.paths read).getD []

end PropertyMangling.CommandLine

open PropertyMangling.CommandLine in
/-- Runs a command on the files it names. An option file may name one more. -/
def main (arguments : List String) : IO UInt32 := do
  let named ← (pathsOf arguments (readerOf [])).mapM readFileOnce
  let all ← (pathsOf arguments (readerOf named)).mapM readFileOnce
  let outcome := run (readerOf all) arguments
  IO.print outcome.stdout
  unless outcome.stderr.isEmpty do IO.eprintln outcome.stderr
  return UInt32.ofNat outcome.code
