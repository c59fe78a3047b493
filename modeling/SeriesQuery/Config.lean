import SeriesQuery.Address
import SeriesQuery.EngineSettings
import SeriesQuery.Failure.Config
/-! Settings of a whole service and what they have to satisfy. -/
namespace SeriesQuery

inductive LogLevel where
  | trace
  | debug
  | info
  | warn
  | error
  deriving DecidableEq, Repr

namespace LogLevel

def all : List LogLevel := [trace, debug, info, warn, error]

def name : LogLevel → String
  | trace => "trace"
  | debug => "debug"
  | info => "info"
  | warn => "warn"
  | error => "error"

def ofName? (name : String) : Option LogLevel := all.find? fun level => level.name = name

end LogLevel

structure ServerSettings where
  address : Address := .octets [0, 0, 0, 0]
  port : Nat := 8080
  /-- Whether pages of other origins may read the answers. -/
  crossOrigin : Bool := true
  /-- Longer request bodies are refused. -/
  maxRequestBytes : Nat := 1048576
  deriving DecidableEq, Repr

structure StorageSettings where
  /-- Fixture files that are loaded first. -/
  preload : List String := []
  maxSeries : Nat := 1000000
  deriving DecidableEq, Repr

structure LoggingSettings where
  level : LogLevel := .info
  /-- Whether each line tells where it comes from. -/
  structured : Bool := false
  deriving DecidableEq, Repr

structure Config where
  server : ServerSettings := {}
  engine : EngineSettings := {}
  storage : StorageSettings := {}
  logging : LoggingSettings := {}
  debug : Bool := false
  deriving DecidableEq, Repr

namespace Config

/-- The settings that have to be positive, with their values. -/
def positives (config : Config) : List (String × Nat) :=
  [("port", config.server.port),
    ("max_request_bytes", config.server.maxRequestBytes),
    ("query_timeout", config.engine.queryTimeout.nanoseconds),
    ("max_points", config.engine.maxPoints),
    ("max_series", config.storage.maxSeries)]

/-- The first thing that is wrong. -/
def fault? (config : Config) : Option ConfigFault :=
  match config.positives.find? fun (_, value) => value = 0 with
  | some (setting, _) => some (.notPositive setting)
  | none => if "" ∈ config.storage.preload then some .preloadPathEmpty else none

/-- The settings, if nothing is wrong with them. -/
def checked (config : Config) : Except ConfigFault Config :=
  match config.fault? with
  | some fault => .error fault
  | none => .ok config

end Config

end SeriesQuery
