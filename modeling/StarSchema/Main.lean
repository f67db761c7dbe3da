import StarSchema.CommandLine
import StarSchema.Pattern.Engine

/-!
# The program

Reads the model file, prints what the command line asks for, and reports failures: an exit code
of 1 for a command that fails, of 2 for arguments that are not used properly.
-/

namespace StarSchema

def usage : String :=
  "Usage: star-schema [--dialect <dialect>] <model.toml> <command>\n\n" ++
  "Commands:\n  star <fact>\n  view <view>\n  schema\n  filters <fact>"

/-- The number of an error of the system, which may come negated. -/
def errorNumber (code : UInt32) : String :=
  " (os error " ++ toString (min code (0 - code)) ++ ")"

/-- A failure of the system in words, with its number. -/
def systemReason : IO.Error → String
  | .noFileOrDirectory _ code _ => "No such file or directory" ++ errorNumber code
  | .permissionDenied _ code _ => "Permission denied" ++ errorNumber code
  | e => toString e

/-- The text of a file, or the failure to read it. -/
def readModel (path : String) : IO (Except CommandError String) := do
  try
    return .ok (← IO.FS.readFile path)
  catch e =>
    return .error (.unreadable path (systemReason e))

end StarSchema

open StarSchema in
/-- The entry point. -/
def main (args : List String) : IO UInt32 := do
  let some invocation := Invocation.read? args
    | IO.eprintln usage
      return 2
  match (← readModel invocation.path).bind (invocation.output Pattern.engine) with
  | .ok text =>
    IO.print text
    return 0
  | .error e =>
    IO.eprintln ("Error: " ++ e.message)
    return 1
