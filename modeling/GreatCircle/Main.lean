/-
# The program

Prints the great-circle route between two places as JSON that a renderer can draw.  This file
only connects `run` with the world: environment, files, the reader of YAML documents, standard
output and standard error.
-/
import GreatCircle.Command.Run
import GreatCircle.Yaml.Document

namespace GreatCircle

/-- How the program is called, in short: what is shown for help, and beside a message about the
arguments.  Its wording is the program's own, and nothing is said of it elsewhere. -/
def usage : String :=
  "usage: great-circle --from PLACE --to PLACE [--points N] [--first-only] [--cities FILE]\n" ++
    "  [--stroke COLOUR] [--stroke-width WIDTH] [--geojson] [--markers] [--log-level LEVEL]"

/-- The file in which the system keeps the variables of the process. -/
def environmentFile : String := "/proc/self/environ"

/-- The variables of the process.  Where the system does not keep them in a file, only those are
asked for that mean something to the program. -/
def readEnvironment : IO Environment := do
  try
    return Environment.ofBlock (← IO.FS.readBinFile environmentFile)
  catch _ =>
    let names := variableNames
    let mut env := Environment.empty
    for name in [names.points, names.splitMode, names.citiesFile, names.stroke, names.strokeWidth,
        names.logLevel] do
      if let some value ← IO.getEnv name then
        env := env.assign name value
    return env

/-- What is found under a path.  No file has a name with half a character in it. -/
def lookUpFile (path : Text) : IO FileEntry := do
  let some name := path.string? | return .missing
  try
    return .file (← IO.FS.readBinFile name)
  catch
    | .inappropriateType .. => return .folder
    | _ => return .missing

/-- The text of a failure that ends the run. -/
def RunFault.text : RunFault → Text
  | settings .notText => settingsFile ++ " is not valid UTF-8"
  | settings (.variable fault) => fault.message
  | noLevel => "no log level is given"
  | unknownLevel name => "Unknown level: " ++ Text.quote name
  | noPoints => "no number of points is given"
  | folder path => "[Errno 21] Is a directory: " ++ Text.quote path
  | catalog path .notText => path ++ " is not valid UTF-8"
  | catalog path _ => path ++ " cannot be read"
  | sphere fault => fault.message messageNumber.shortest

end GreatCircle

open GreatCircle in
/-- Runs the program with its arguments. -/
def main (args : List String) : IO UInt32 := do
  let root := (← IO.appDir).toString
  let result ← run root lookUpFile (← readEnvironment) (args.map Text.ofString) Yaml.read
  for line in result.log do
    IO.eprintln line.shown
  if let some text := result.outcome.output? usage then
    IO.println text
  match result.outcome with
  | .printed _ | .help => return 0
  | .misused fault =>
    IO.eprintln usage
    IO.eprintln ("error: " ++ fault.message.shown)
    return 2
  | .stopped message =>
    IO.eprintln message.shown
    return 1
  | .failed fault =>
    IO.eprintln fault.text.shown
    return 1
