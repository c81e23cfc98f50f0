import Trellis.Cli.Run
/-!
# The command line

Gathers the surroundings of the program, runs it, and prints what it left. Only the files that the
program may read are looked at.
-/

namespace Trellis.Cli

/-- The content of a file, if it can be read. -/
def contentOf? (path : String) : IO (Option String) := do
  try
    return some (← IO.FS.readFile path)
  catch _ =>
    return none

/-- A place from the text of an absolute path. -/
def placeOf (path : String) : Place :=
  (Files.splitPath path).filter (· ≠ "")

/-- A variable from its text. -/
def variableOf (text : List Char) : Option (String × String) :=
  (Text.cutAt (· = '=') text).map fun (name, value) => (String.ofList name, String.ofList value)

/-- The variables of the environment; none where the system does not list them. -/
def environment : IO (List (String × String)) := do
  let listed ← contentOf? "/proc/self/environ"
  return (Text.splitAt '\x00' (listed.getD "").toList).filterMap variableOf

/-- The paths of the files that the program may read. -/
def readablePaths (arguments : List String) (s : Surroundings) : List String :=
  let places :=
    match parse arguments with
    | .ok (.run { config := some path, .. }) =>
      match configPath path with
      | .absolute path => [Files.splitPath path]
      | .relative path => (Place.line s.workingDirectory).map (· ++ Files.splitPath path)
    | .ok (.run _) => s.candidates
    | _ => []
  places.map "/".intercalate

/-- What the program finds around it when it runs with some arguments. -/
def surroundings (arguments : List String) : IO Surroundings := do
  let environment ← environment
  let workingDirectory := placeOf (toString (← IO.currentDir))
  let home := placeOf ((environment.lookup "HOME").getD "/")
  let directories := Place.line workingDirectory ++ Place.line home
  let bare : Surroundings :=
    { files := .ofNames "" [] directories
      workingDirectory
      home
      configHome := (environment.lookup "XDG_CONFIG_HOME").map placeOf
      environment }
  let found ← (readablePaths arguments bare).filterMapM fun path => do
    return (← contentOf? ("/" ++ path)).map fun content => (path, content)
  return { bare with files := .ofNames "" found directories }

end Trellis.Cli

def main (arguments : List String) : IO UInt32 := do
  let outcome := Trellis.Cli.run arguments (← Trellis.Cli.surroundings arguments)
  (← IO.getStdout).putStr outcome.output
  (← IO.getStderr).putStr (outcome.complaints.getD "the arguments were refused; try --help\n")
  return outcome.status.toUInt32
