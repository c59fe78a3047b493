import SeriesQuery.Decimal.Basic
import SeriesQuery.Instant.Calendar
import SeriesQuery.Text.Blank
/-!
Points in time from text such as `2025-01-01T00:01:00.5+02:00`.

The form is that of RFC 3339, read with some freedom: numbers may be shorter than they should be and
have blanks before them, a blank may stand for the `T`, and years beyond four digits have a sign. A
fraction of a second counts in whole milliseconds, the rest of it is dropped.
-/
namespace SeriesQuery.Instant

/-- A number of one digit up to `most`, and the text behind it. -/
def readDigits (most : Nat) (text : List Char) : Option (Nat × List Char) :=
  let digits := (text.take most).takeWhile Decimal.isDigit
  if digits = [] then none else some (Decimal.digitsValue digits, text.drop digits.length)

/-- A number of at most two digits, blanks before it apart. -/
def readPart (text : List Char) : Option (Nat × List Char) := readDigits 2 (Text.trimStart text)

/-- Four digits at most, or any number of them behind a sign. -/
def readYear (text : List Char) : Option (Int × List Char) :=
  match Text.trimStart text with
  | '-' :: rest => (readDigits rest.length rest).map fun (year, tail) => (-year, tail)
  | '+' :: rest => (readDigits rest.length rest).map fun (year, tail) => (year, tail)
  | rest => (readDigits 4 rest).map fun (year, tail) => (year, tail)

/-- The text behind a mark, blanks before the mark apart. -/
def skipMark (mark : Char) (text : List Char) : Option (List Char) :=
  match Text.trimStart text with
  | c :: rest => if c = mark then some rest else none
  | [] => none

def readDate (text : List Char) : Option (Date × List Char) := do
  let (year, afterYear) ← readYear text
  let (month, afterMonth) ← readPart (← skipMark '-' afterYear)
  let (day, rest) ← readPart (← skipMark '-' afterMonth)
  let date : Date := ⟨year, month, day⟩
  guard date.isValid
  return (date, rest)

/-- Milliseconds of the fraction behind a point; without a point there are none. -/
def readFraction (text : List Char) : Option (Nat × List Char) :=
  match text with
  | '.' :: rest =>
    let digits := rest.takeWhile Decimal.isDigit
    if digits = [] then none
    else
      some (Decimal.digitsValue ((digits ++ ['0', '0']).take 3), rest.dropWhile Decimal.isDigit)
  | rest => some (0, rest)

/-- Milliseconds since midnight. A minute may have a sixty-first second. -/
def readTime (text : List Char) : Option (Nat × List Char) := do
  let (hour, afterHour) ← readPart text
  let (minute, afterMinute) ← readPart (← skipMark ':' afterHour)
  let (second, afterSecond) ← readPart (← skipMark ':' afterMinute)
  let (fraction, rest) ← readFraction afterSecond
  guard (hour < 24 ∧ minute < 60 ∧ second ≤ 60)
  return (((hour * 60 + minute) * 60 + second) * 1000 + fraction, rest)

/-- Two digits. -/
def readPair (text : List Char) : Option (Nat × List Char) :=
  match text with
  | a :: b :: rest =>
    if Decimal.isDigit a ∧ Decimal.isDigit b then some (Decimal.digitsValue [a, b], rest) else none
  | _ => none

def isOffsetSeparator (c : Char) : Bool := c = ':' || Text.isBlank c

/-- Hours and minutes in seconds; the offset stays below one day. -/
def readOffsetSize (text : List Char) : Option (Nat × List Char) := do
  let (hours, afterHours) ← readPair text
  let (minutes, rest) ← readPair (afterHours.dropWhile isOffsetSeparator)
  guard (minutes < 60 ∧ hours < 24)
  return (hours * 3600 + minutes * 60, rest)

/-- Seconds by which a local time is ahead. -/
def readOffset (text : List Char) : Option (Int × List Char) :=
  match text with
  | 'Z' :: rest => some (0, rest)
  | 'z' :: rest => some (0, rest)
  | '+' :: rest => (readOffsetSize rest).map fun (seconds, tail) => (seconds, tail)
  | '-' :: rest => (readOffsetSize rest).map fun (seconds, tail) => (-seconds, tail)
  | '−' :: rest => (readOffsetSize rest).map fun (seconds, tail) => (-seconds, tail)
  | a :: b :: c :: rest =>
    if [a, b, c].map Char.toLower = ['u', 't', 'c'] then some (0, rest) else none
  | _ => none

def skipSeparator : List Char → Option (List Char)
  | c :: rest => if c = 'T' ∨ c = 't' ∨ c = ' ' then some rest else none
  | [] => none

def dayLength : Int := 86400000

def read? (text : String) : Option Int := do
  let (date, afterDate) ← readDate text.toList
  let (time, afterTime) ← readTime (← skipSeparator afterDate)
  let (offset, rest) ← readOffset (Text.trimStart afterTime)
  guard (Text.trimStart rest = [])
  let instant := date.days * dayLength + time - offset * 1000
  guard (Date.first.days * dayLength ≤ instant ∧ instant < (Date.last.days + 1) * dayLength)
  guard (Date.first.days ≤ date.days ∧ date.days ≤ Date.last.days)
  return instant

end SeriesQuery.Instant
