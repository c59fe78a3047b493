import SeriesQuery.CommandLine.Reader
import SeriesQuery.Pattern.Reader
import SeriesQuery.Startup
/-! The command line of the service. -/
namespace SeriesQuery.Program

/-- The content of a file of the system. -/
def contentAt (path : String) : IO (Except FileFault String) := do
  try
    return .ok (← IO.FS.readFile path)
  catch fault =>
    match fault with
    | .noFileOrDirectory _ _ _ => return .error .notFound
    | .inappropriateType _ 20 _ => return .error .notADirectory
    | .inappropriateType _ 21 _ => return .error .isADirectory
    | other => return .error (.other (toString other))

/-- The settings file that is read when no other one is asked for. -/
def usualConfig : IO (Option String) := do
  let directory ← match ← IO.getEnv "XDG_CONFIG_HOME" with
    | some directory => pure (some directory)
    | none => pure ((← IO.getEnv "HOME").map (· ++ "/.config"))
  return directory.map (· ++ "/" ++ programName ++ "/config.yaml")

/-- The variables that stand in for parameters. -/
def environment : IO (List (String × String)) := do
  let mut found := []
  for parameter in CommandLine.Parameter.all do
    if let some name := parameter.environmentName? then
      if let some value ← IO.getEnv name then
        found := (name, value) :: found
  return found

def run (line : CommandLine) : IO UInt32 := do
  match ← (Startup.execute contentAt Pattern.engine (← usualConfig) line).run with
  | .ok (.finished text) =>
    IO.print text
    return 0
  | .ok (.serving _ _) =>
    IO.eprintln "Error: there is no listener; name a file with a request by '--query'"
    return 1
  | .error failure =>
    IO.eprintln ("Error: " ++ failure.message)
    return 1

end SeriesQuery.Program

open SeriesQuery in
def main (arguments : List String) : IO UInt32 := do
  let environment ← Program.environment
  match CommandLine.read arguments (environment.lookup ·) with
  | .ok line => Program.run line
  | .error .helpWanted =>
    IO.print CommandLine.Parameter.usage
    return 0
  | .error fault =>
    IO.eprintln ("error: " ++ fault.message)
    return 2
