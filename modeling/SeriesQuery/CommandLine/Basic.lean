import SeriesQuery.Config
import SeriesQuery.Version
/-! What may stand on a command line. -/
namespace SeriesQuery.CommandLine

/-- Parameters with a value. -/
inductive Setting where
  | port
  | bind
  | config
  | data
  | workerThreads
  | queryTimeout
  | maxSeries
  | query
  deriving DecidableEq, Repr

/-- Parameters without a value. -/
inductive Switch where
  | debug
  | headless
  | checkConfig
  | version
  | help
  deriving DecidableEq, Repr

inductive Parameter where
  | setting (setting : Setting)
  | switch (switch : Switch)
  deriving DecidableEq, Repr

namespace Parameter

/-- In the order in which the environment is asked for them. -/
def all : List Parameter := [
  setting .port, setting .bind, setting .config, setting .data, setting .workerThreads,
  setting .queryTimeout, setting .maxSeries, switch .debug, switch .headless, setting .query,
  switch .checkConfig, switch .version, switch .help]

/-- The name behind two hyphens. -/
def name : Parameter → String
  | setting .port => "port"
  | setting .bind => "bind"
  | setting .config => "config"
  | setting .data => "data"
  | setting .workerThreads => "worker-threads"
  | setting .queryTimeout => "query-timeout-secs"
  | setting .maxSeries => "max-series"
  | setting .query => "query"
  | switch .debug => "debug"
  | switch .headless => "headless"
  | switch .checkConfig => "check-config"
  | switch .version => "show-version"
  | switch .help => "help"

/-- The letter behind one hyphen. -/
def letter? : Parameter → Option Char
  | setting .port => some 'p'
  | setting .config => some 'c'
  | switch .debug => some 'd'
  | switch .version => some 'V'
  | switch .help => some 'h'
  | _ => none

/-- The variable of the environment that stands in for the parameter. -/
def environmentName? : Parameter → Option String
  | setting .port => some "STRATA_PORT"
  | setting .bind => some "STRATA_BIND"
  | setting .config => some "STRATA_CONFIG"
  | setting .data => some "STRATA_DATA"
  | setting .workerThreads => some "STRATA_WORKER_THREADS"
  | setting .queryTimeout => some "STRATA_QUERY_TIMEOUT_SECS"
  | setting .maxSeries => some "STRATA_MAX_SERIES"
  | switch .debug => some "STRATA_DEBUG"
  | switch .headless => some "STRATA_HEADLESS"
  | _ => none

/-- What the parameter is for. -/
def purpose : Parameter → String
  | setting .port => "HTTP port for the query API"
  | setting .bind => "Address to bind the query API to"
  | setting .config => "Configuration file path"
  | setting .data => "JSONL sample files to load at startup (repeatable)"
  | setting .workerThreads => "Worker threads for query evaluation (0 = available cores)"
  | setting .queryTimeout => "Default query deadline in seconds"
  | setting .maxSeries => "Maximum number of series held in memory"
  | setting .query => "Run the query in this JSON file, print the result and exit"
  | switch .debug => "Enable debug logging"
  | switch .headless => "Structured logs with targets, thread ids and line numbers"
  | switch .checkConfig => "Validate configuration and exit"
  | switch .version => "Show version information"
  | switch .help => "Print help"

/-- One line of the usage text. -/
def usageLine (parameter : Parameter) : String :=
  let short := match parameter.letter? with
    | some letter => "  -" ++ letter.toString ++ ", --"
    | none => "      --"
  let value := match parameter with
    | setting _ => " <VALUE>"
    | switch _ => ""
  short ++ parameter.name ++ value ++ "  " ++ parameter.purpose ++ "\n"

def usage : String :=
  SeriesQuery.purpose ++ "\n\nUsage: " ++ programName ++ " [OPTIONS]\n\nOptions:\n" ++
    String.join (all.map usageLine)

def ofName? (name : String) : Option Parameter := all.find? fun parameter => parameter.name = name

def ofLetter? (letter : Char) : Option Parameter :=
  all.find? fun parameter => parameter.letter? = some letter

end Parameter

/-- Why a command line is not carried out; a wish for help is one of the reasons. -/
inductive Fault where
  | helpWanted
  | unknown (argument : String)
  | valueMissing (setting : Setting)
  | valueEmpty (setting : Setting)
  /-- The value is not of the kind that the parameter takes. -/
  | valueMalformed (setting : Setting) (value : String)
  /-- The environment sets a switch neither on nor off. -/
  | notOnOrOff (switch : Switch) (value : String)
  | valueUnwanted (switch : Switch)
  | repeated (parameter : Parameter)
  deriving DecidableEq, Repr

namespace Fault

def spelling (parameter : Parameter) : String := "'--" ++ parameter.name ++ "'"

def message : Fault → String
  | helpWanted => "help wanted"
  | unknown argument => "unexpected argument '" ++ argument ++ "'"
  | valueMissing setting => "a value is required for " ++ spelling (.setting setting)
  | valueEmpty setting => "the value of " ++ spelling (.setting setting) ++ " must not be empty"
  | valueMalformed setting value =>
    "invalid value '" ++ value ++ "' for " ++ spelling (.setting setting)
  | notOnOrOff switch value =>
    "invalid value '" ++ value ++ "' for " ++ spelling (.switch switch) ++
      ", expected 'true' or 'false'"
  | valueUnwanted switch => spelling (.switch switch) ++ " takes no value"
  | repeated parameter => spelling parameter ++ " cannot be used multiple times"

end Fault

end SeriesQuery.CommandLine

namespace SeriesQuery

/-- What a command line and the environment ask for. -/
structure CommandLine where
  port : Option Nat := none
  address : Option Address := none
  /-- The file to read settings from. -/
  config : Option String := none
  /-- Fixture files to load first. -/
  data : List String := []
  workers : Option Nat := none
  queryTimeoutSeconds : Option Nat := none
  maxSeries : Option Nat := none
  debug : Bool := false
  headless : Bool := false
  /-- The file that holds a request. -/
  query : Option String := none
  checkConfig : Bool := false
  version : Bool := false
  deriving DecidableEq, Repr

end SeriesQuery
