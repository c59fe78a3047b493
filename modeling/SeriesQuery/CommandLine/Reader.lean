import SeriesQuery.CommandLine.Basic
import SeriesQuery.Decimal.Natural
import SeriesQuery.Text.Pieces
/-!
Reading of a command line. A value is looked at only when the next known parameter or the end is
reached, so an unknown argument is reported before a bad value in front of it. The environment
speaks for parameters that are not given.
-/
namespace SeriesQuery.CommandLine

/-- A port may be written as a negative zero. -/
def readPort (text : List Char) : Option Nat :=
  match text with
  | '-' :: zeros => if zeros ≠ [] ∧ zeros.all (· = '0') then some 0 else none
  | _ => Decimal.natural? 65535 text

/-- Whole numbers of 64 bits. -/
def readWord (text : List Char) : Option Nat := Decimal.natural? (UInt64.size - 1) text

/-- The command line with one of its values set. -/
def assign (setting : Setting) (value : String) (line : CommandLine) : Except Fault CommandLine :=
  let number := fun (read : Option Nat) (set : Nat → CommandLine) =>
    match read with
    | some number => Except.ok (set number)
    | none => .error (.valueMalformed setting value)
  let path := fun (set : CommandLine) =>
    if value = "" then .error (.valueEmpty setting) else .ok set
  let chars := value.toList
  match setting with
  | .port => number (readPort chars) fun port => { line with port := some port }
  | .bind =>
    match Address.read? value with
    | some address => .ok { line with address := some address }
    | none => .error (.valueMalformed setting value)
  | .config => path { line with config := some value }
  | .query => path { line with query := some value }
  | .data =>
    let paths := (Text.pieces ',' chars).map String.ofList
    if "" ∈ paths then .error (.valueEmpty setting)
    else .ok { line with data := line.data ++ paths }
  | .workerThreads => number (readWord chars) fun workers => { line with workers := some workers }
  | .queryTimeout =>
    number (readWord chars) fun seconds => { line with queryTimeoutSeconds := some seconds }
  | .maxSeries => number (readWord chars) fun count => { line with maxSeries := some count }

def turn (switch : Switch) (on : Bool) (line : CommandLine) : CommandLine :=
  match switch with
  | .debug => { line with debug := on }
  | .headless => { line with headless := on }
  | .checkConfig => { line with checkConfig := on }
  | .version => { line with version := on }
  | .help => line

/-- A command line that is being read. -/
structure Progress where
  line : CommandLine
  /-- Parameters met so far. -/
  given : List Parameter
  /-- A setting that is not assigned yet, and its value once it is met. -/
  pending : Option (Setting × Option String)

namespace Progress

/-- Marks a parameter as given; only data may be given more than once. -/
def give (progress : Progress) (parameter : Parameter) : Except Fault Progress :=
  if parameter ∈ progress.given ∧ parameter ≠ .setting .data then .error (.repeated parameter)
  else .ok { progress with given := parameter :: progress.given }

def assign (progress : Progress) (setting : Setting) (value : String) : Except Fault Progress := do
  let progress ← progress.give (.setting setting)
  return { progress with line := ← CommandLine.assign setting value progress.line }

/-- Assigns the setting that is not assigned yet. -/
def settle (progress : Progress) : Except Fault Progress :=
  match progress.pending with
  | none => .ok progress
  | some (setting, none) => .error (.valueMissing setting)
  | some (setting, some value) => { progress with pending := none }.assign setting value

def turnOn (progress : Progress) (switch : Switch) : Except Fault Progress := do
  let progress ← progress.settle
  if switch = .help then throw .helpWanted
  let progress ← progress.give (.switch switch)
  return { progress with line := turn switch true progress.line }

/-- Meets a setting, with the value that is attached to it if there is one. -/
def begin (progress : Progress) (setting : Setting) (value : Option String) :
    Except Fault Progress := do
  let progress ← progress.settle
  match value with
  | some value => progress.assign setting value
  | none => return { progress with pending := some (setting, none) }

/-- The name before the first equals sign and the value behind it. -/
def splitValue (text : List Char) : String × Option String :=
  let name := String.ofList (text.takeWhile (· ≠ '='))
  match text.dropWhile (· ≠ '=') with
  | _ :: value => (name, some (String.ofList value))
  | [] => (name, none)

def long (progress : Progress) (argument : String) (text : List Char) : Except Fault Progress :=
  let (name, value) := splitValue text
  match Parameter.ofName? name, value with
  | none, _ => .error (.unknown argument)
  | some (.setting setting), value => progress.begin setting value
  | some (.switch switch), none => progress.turnOn switch
  | some (.switch switch), some _ => .error (.valueUnwanted switch)

/-- Letters of switches, then maybe the letter of a setting and its value. -/
def letters (progress : Progress) (argument : String) : List Char → Except Fault Progress
  | [] => .ok progress
  | letter :: rest =>
    match Parameter.ofLetter? letter with
    | none => .error (.unknown argument)
    | some (.switch switch) => do letters (← progress.turnOn switch) argument rest
    | some (.setting setting) =>
      match rest with
      | [] => progress.begin setting none
      | '=' :: value => progress.begin setting (some (String.ofList value))
      | value => progress.begin setting (some (String.ofList value))

/-- An argument without hyphens in front is the value of the setting before it. -/
def value (progress : Progress) (argument : String) : Except Fault Progress :=
  match progress.pending with
  | some (setting, none) => .ok { progress with pending := some (setting, some argument) }
  | _ => .error (.unknown argument)

def step (progress : Progress) (argument : String) : Except Fault Progress :=
  match argument.toList with
  | '-' :: '-' :: text => progress.long argument text
  | '-' :: letter :: rest => progress.letters argument (letter :: rest)
  | _ => progress.value argument

/-- All arguments; nothing may follow two hyphens that stand alone. -/
def steps (progress : Progress) : List String → Except Fault Progress
  | [] => progress.settle
  | "--" :: rest =>
    match rest with
    | [] => progress.settle
    | argument :: _ => .error (.unknown argument)
  | argument :: rest => do steps (← progress.step argument) rest

/-- Lets a variable of the environment stand in for a parameter that is not given. -/
def ask (environment : String → Option String) (progress : Progress) (parameter : Parameter) :
    Except Fault Progress :=
  if parameter ∈ progress.given then .ok progress
  else
    match parameter.environmentName?.bind environment with
    | none => .ok progress
    | some value =>
      match parameter with
      | .setting setting => progress.assign setting value
      | .switch switch =>
        if value = "true" then .ok { progress with line := turn switch true progress.line }
        else if value = "false" then .ok progress
        else .error (.notOnOrOff switch value)

end Progress

/-- What arguments and environment ask for. -/
def read (arguments : List String) (environment : String → Option String) :
    Except Fault CommandLine := do
  let given ← Progress.steps ⟨{}, [], none⟩ arguments
  let asked ← Parameter.all.foldlM (Progress.ask environment) given
  return asked.line

end SeriesQuery.CommandLine
