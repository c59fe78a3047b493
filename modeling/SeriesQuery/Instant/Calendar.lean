import SeriesQuery.Instant
/-! Days of the Gregorian calendar, extended to all years, counted from the first day of 1970. -/
namespace SeriesQuery.Instant

structure Date where
  year : Int
  month : Nat
  day : Nat
  deriving DecidableEq, Repr

namespace Date

def isLeap (year : Int) : Bool := year % 4 == 0 && (year % 100 != 0 || year % 400 == 0)

def monthLengths (year : Int) : List Nat :=
  [31, if isLeap year then 29 else 28, 31, 30, 31, 30, 31, 31, 30, 31, 30, 31]

/-- Days from the beginning of the year 1 to the beginning of a year. -/
def daysBeforeYear (year : Int) : Int :=
  let passed := year - 1
  365 * passed + passed / 4 - passed / 100 + passed / 400

def isValid (date : Date) : Bool :=
  1 ≤ date.month && 1 ≤ date.day &&
    ((monthLengths date.year)[date.month - 1]?).any fun length => date.day ≤ length

def daysBeforeMonth (date : Date) : Nat :=
  ((monthLengths date.year).take (date.month - 1)).foldl (· + ·) 0

def days (date : Date) : Int :=
  daysBeforeYear date.year - daysBeforeYear 1970 + date.daysBeforeMonth + date.day - 1

/-- The first and the last day that a point in time may fall on. -/
def first : Date := ⟨-262143, 1, 1⟩

def last : Date := ⟨262142, 12, 31⟩

example : days ⟨1970, 1, 1⟩ = 0 ∧ days ⟨2000, 3, 1⟩ = 11017 ∧ days ⟨1969, 12, 31⟩ = -1 := by decide

end Date

end SeriesQuery.Instant
