import SeriesQuery.Decimal.Basic
import SeriesQuery.Duration
import SeriesQuery.Text.Blank
/-!
Durations as text such as `1h 30m` or `1.5s`: numbers, each with a unit, that are added up. Blanks
may stand anywhere but inside a unit. Every part has to fit 64 bits.
-/
namespace SeriesQuery.Duration

/-- A unit as a number of seconds, or as a number of nanoseconds below a second. -/
inductive TimeUnit where
  | seconds (count : Nat)
  | nanoseconds (count : Nat)
  deriving DecidableEq, Repr

/-- A month is a twelfth of a year, and a year a quarter of four with one leap day. -/
def units : List (List String × TimeUnit) := [
  (["nanos", "nsec", "ns"], .nanoseconds 1),
  (["usec", "us", "µs"], .nanoseconds 1000),
  (["millis", "msec", "ms"], .nanoseconds 1000000),
  (["seconds", "second", "secs", "sec", "s"], .seconds 1),
  (["minutes", "minute", "min", "mins", "m"], .seconds 60),
  (["hours", "hour", "hr", "hrs", "h"], .seconds 3600),
  (["days", "day", "d"], .seconds 86400),
  (["weeks", "week", "wk", "wks", "w"], .seconds 604800),
  (["months", "month", "M"], .seconds 2630016),
  (["years", "year", "yr", "yrs", "y"], .seconds 31557600)]

def unit? (name : String) : Option TimeUnit :=
  (units.find? fun entry => name ∈ entry.1).map (·.2)

/-- A number before a unit: its whole part, and the digits of its fraction if it has a point. -/
structure Count where
  whole : Nat
  fraction : Option (List Char)

def wordLimit : Nat := UInt64.size

def inWord (value : Nat) : Option Nat := if value < wordLimit then some value else none

def isUnitChar (c : Char) : Bool := ('a' ≤ c && c ≤ 'z') || ('A' ≤ c && c ≤ 'Z') || c = 'µ'

/-- Digits up to the first character that is neither a digit nor a blank. -/
def spanDigits (text : List Char) : List Char × List Char :=
  let isPart := fun c => Decimal.isDigit c || Text.isBlank c
  ((text.takeWhile isPart).filter Decimal.isDigit, text.dropWhile isPart)

/-- A number; it starts with a digit, and a point needs a digit behind it. -/
def readCount (text : List Char) : Option (Count × List Char) := do
  let (whole, rest) := spanDigits text
  if whole = [] then none
  let value ← inWord (Decimal.digitsValue whole)
  match rest with
  | '.' :: tail =>
    let (fraction, rest) := spanDigits tail
    if fraction = [] then none
    return (⟨value, some fraction⟩, rest)
  | rest => return (⟨value, none⟩, rest)

/-- Nanoseconds of a number of units. Fractions of a minute are exact, those of an hour whole
seconds. -/
def Count.nanoseconds (count : Count) (unit : TimeUnit) : Option Nat := do
  let whole ← match unit with
    | .seconds size => (inWord (count.whole * size)).map (· * 1000000000)
    | .nanoseconds size => inWord (count.whole * size)
  match count.fraction with
  | none => return whole
  | some digits =>
    let numerator ← inWord (Decimal.digitsValue digits)
    let denominator ← inWord (Nat.pow 10 digits.length)
    match unit with
    | .nanoseconds size =>
      if size = 1 then none
      return whole + (← inWord (numerator * size)) / denominator
    | .seconds size =>
      if size ≤ 60 then return whole + (← inWord (numerator * (size * 1000000000))) / denominator
      else return whole + (← inWord (numerator * size)) / denominator * 1000000000

/-- The parts of a text one after another, at most `fuel` of them. -/
def readParts (total : Nat) (text : List Char) : Nat → Option Nat
  | 0 => none
  | fuel + 1 => do
    let (count, rest) ← readCount text
    let unit ← unit? (String.ofList (rest.takeWhile isUnitChar))
    let added ← count.nanoseconds unit
    if wordLimit ≤ (total + added) / 1000000000 then none
    let behind := rest.dropWhile isUnitChar
    match behind with
    | [] => return total + added
    | c :: _ =>
      if ¬(Decimal.isDigit c ∨ Text.isBlank c) then none
      match Text.trimStart behind with
      | [] => return total + added
      | next => readParts (total + added) next fuel

/-- Zero alone needs no unit. -/
def read? (text : String) : Option Duration :=
  if text = "0" then some ⟨0⟩
  else
    let chars := Text.trimStart text.toList
    (readParts 0 chars chars.length).map Duration.mk

/-- A number with the fraction that `rest` of `scale` makes, without zeros at its end. -/
def fixedText (whole rest scale : Nat) : String :=
  let digits := Nat.toDigits 10 (scale + rest) |>.drop 1
  let kept := (digits.reverse.dropWhile (· = '0')).reverse
  toString whole ++ if kept = [] then "" else "." ++ String.ofList kept

/-- In the largest of four units that leaves a whole part. -/
def render (duration : Duration) : String :=
  let nanoseconds := duration.nanoseconds
  if 1000000000 ≤ nanoseconds then
    fixedText (nanoseconds / 1000000000) (nanoseconds % 1000000000) (1000000000) ++ "s"
  else if 1000000 ≤ nanoseconds then
    fixedText (nanoseconds / 1000000) (nanoseconds % 1000000) (1000000) ++ "ms"
  else if 1000 ≤ nanoseconds then
    fixedText (nanoseconds / 1000) (nanoseconds % 1000) (1000) ++ "µs"
  else toString nanoseconds ++ "ns"

end SeriesQuery.Duration
