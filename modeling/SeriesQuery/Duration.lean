/-! Lengths of time. -/
namespace SeriesQuery

structure Duration where
  nanoseconds : Nat
  deriving DecidableEq, Repr

namespace Duration

def ofSeconds (seconds : Nat) : Duration := ⟨seconds * 1000000000⟩

def ofMilliseconds (milliseconds : Nat) : Duration := ⟨milliseconds * 1000000⟩

/-- Whole seconds. -/
def seconds (duration : Duration) : Nat := duration.nanoseconds / 1000000000

/-- Nanoseconds beyond the whole seconds. -/
def subsecond (duration : Duration) : Nat := duration.nanoseconds % 1000000000

/-- Whole milliseconds. -/
def milliseconds (duration : Duration) : Nat := duration.nanoseconds / 1000000

end Duration

end SeriesQuery
