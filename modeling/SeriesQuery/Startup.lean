import SeriesQuery.CommandLine.Basic
import SeriesQuery.Config.Reader
import SeriesQuery.Engine
import SeriesQuery.Fixture
import SeriesQuery.Version
import SeriesQuery.Wire.Answer
/-!
From a command line to a result. Files are read in the monad `m`, so that a run can be followed over
any collection of files.
-/
namespace SeriesQuery

namespace CommandLine

/-- Settings with what the command line says about them put on top. -/
def override (line : CommandLine) (config : Config) : Config :=
  { config with
    server := { config.server with
      address := line.address.getD config.server.address
      port := line.port.getD config.server.port }
    engine := { config.engine with
      workers := line.workers.getD config.engine.workers
      queryTimeout := (line.queryTimeoutSeconds.map .ofSeconds).getD config.engine.queryTimeout }
    storage := { config.storage with
      preload := config.storage.preload ++ line.data
      maxSeries := line.maxSeries.getD config.storage.maxSeries }
    debug := line.debug }

end CommandLine

namespace Startup

variable {m : Type → Type} [Monad m] (contentAt : String → m (Except FileFault String))

/--
The text of the settings file and its path. The file that is asked for has to be readable; the usual
one is passed over if it is not.
-/
def findConfig (usual : Option String) (line : CommandLine) :
    ExceptT Failure m (Option (String × String)) := do
  match line.config, usual with
  | some path, _ =>
    match ← contentAt path with
    | .ok text => return some (path, text)
    | .error fault => throw (.config (.fileUnreadable path fault))
  | none, some path =>
    match ← contentAt path with
    | .ok text => return some (path, text)
    | .error _ => return none
  | none, none => return none

/-- The settings of a run and the file they come from. -/
def loadConfig (usual : Option String) (line : CommandLine) :
    ExceptT Failure m (Config × Option String) := do
  let found ← findConfig contentAt usual line
  let config ← match found with
    | some (_, text) => ((Config.read text).mapError Failure.config : Except Failure Config)
    | none => pure {}
  let checked ← ((line.override config).checked.mapError Failure.config : Except Failure Config)
  return (checked, found.map (·.1))

/-- The samples of a fixture file. -/
def loadFixture (path : String) : ExceptT Failure m (List (Sample Float)) := do
  match ← contentAt path with
  | .error fault => throw (.file fault)
  | .ok text =>
    ((Fixture.read FixtureRecord.decode text {}).mapError (Failure.fixture path) : Except Failure _)

/-- A store with the samples of all fixture files; each file is read before any sample is stored. -/
def loadStore (config : Config) : ExceptT Failure m (Store Float) := do
  let batches ← config.storage.preload.mapM (loadFixture contentAt)
  let (store, stored) := (Store.empty config.storage.maxSeries).insertAll batches.flatten
  let _ ← stored
  return store

/-- The text of the answer to the request in a file. -/
def answerFile (engine : Engine Float) (path : String) : ExceptT Failure m String := do
  match ← contentAt path with
  | .error fault => throw (.file fault)
  | .ok text =>
    match Json.Decoder.ofText Request.record.decode text with
    | .error _ => throw .undecodable
    | .ok request =>
      let curves ← (engine.query request).2
      return (Answer.success curves).toJson.renderLines ++ "\n"

def versionReport : String := programName ++ " " ++ version ++ "\n" ++ purpose ++ "\n"

def configReport (config : Config) : String :=
  "Configuration is valid!\n" ++
    "  Listen: " ++ config.server.address.render ++ ":" ++ toString config.server.port ++ "\n" ++
    "  Worker threads: " ++ toString config.engine.workers ++ "\n" ++
    "  Query timeout: " ++ config.engine.queryTimeout.render ++ "\n" ++
    "  Max points: " ++ toString config.engine.maxPoints ++ "\n" ++
    "  Max series: " ++ toString config.storage.maxSeries ++ "\n" ++
    "  Preload files: " ++ toString config.storage.preload.length ++ "\n"

inductive Outcome where
  /-- The run is over once the text is printed. -/
  | finished (text : String)
  /-- Requests are to be answered from now on. -/
  | serving (engine : Engine Float) (settings : ServerSettings)

def execute (patterns : PatternEngine) (usual : Option String) (line : CommandLine) :
    ExceptT Failure m Outcome := do
  if line.version then return .finished versionReport
  let (config, _) ← loadConfig contentAt usual line
  if line.checkConfig then return .finished (configReport config)
  let store ← loadStore contentAt config
  let engine := Engine.ofStore store config.engine patterns
  match line.query with
  | some path => return .finished (← answerFile contentAt engine path)
  | none => return .serving engine config.server

end Startup

end SeriesQuery
