/-! What an engine has met so far, in 64-bit counters that start again from zero when they are
full. -/
namespace SeriesQuery

structure Counters where
  queries : UInt64 := 0
  failures : UInt64 := 0
  timeouts : UInt64 := 0
  seriesScanned : UInt64 := 0
  /-- Totals that fell and were taken to have started again. -/
  restarts : UInt64 := 0
  /-- Series whose first sample was left out because nothing stood before it. -/
  unanchored : UInt64 := 0
  /-- Histogram steps whose counts had to be raised. -/
  inconsistentSteps : UInt64 := 0
  deriving DecidableEq, Repr

namespace Counters

def addQuery (counters : Counters) : Counters := { counters with queries := counters.queries + 1 }

def addFailure (counters : Counters) : Counters :=
  { counters with failures := counters.failures + 1 }

def addTimeout (counters : Counters) : Counters :=
  { counters with timeouts := counters.timeouts + 1 }

def addSeries (counters : Counters) (count : Nat) : Counters :=
  { counters with seriesScanned := counters.seriesScanned + UInt64.ofNat count }

def addRestarts (counters : Counters) (count : Nat) : Counters :=
  { counters with restarts := counters.restarts + UInt64.ofNat count }

def addUnanchored (counters : Counters) (count : Nat) : Counters :=
  { counters with unanchored := counters.unanchored + UInt64.ofNat count }

def addInconsistentSteps (counters : Counters) (count : Nat) : Counters :=
  { counters with inconsistentSteps := counters.inconsistentSteps + UInt64.ofNat count }

end Counters

end SeriesQuery
