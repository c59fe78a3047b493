import SeriesQuery.Series
/-!
What a series contributes to a window of time. Running totals are turned into increments, each
against the sample before; a total that falls has started again from zero. Other values count as
they are.
-/
namespace SeriesQuery

structure Increments (V : Type) where
  points : List (Int × V)
  /-- How many times in the window a total fell. -/
  restarts : Nat
  /-- Whether the first sample of a running total is in the window and so has no increment. -/
  unanchored : Bool

namespace Series

variable {V : Type} [Scalar V]

def isRunningTotal (series : Series V) : Bool :=
  series.type.isMonotonic && series.temporality != .delta

def hasFallen (before after : V) : Bool := !decide (before ≤ after)

def increment (before after : V) : V := if hasFallen before after then after else after - before

/-- Each sample from `start` on together with the value before it. -/
def successions (series : Series V) (start : Int) : List (V × Int × V) :=
  let samples := series.samples.entries
  (samples.zipWith (fun before after => (before.2, after)) samples.tail).filter
    fun (_, instant, _) => start ≤ instant

/-- The points from `start` on; earlier samples only serve the first of them as what came before. -/
def increments (series : Series V) (start : Int) : Increments V :=
  let samples := series.samples.entries
  if series.isRunningTotal then
    let successions := series.successions start
    { points := successions.map fun (before, instant, value) => (instant, increment before value)
      restarts := successions.countP fun (before, _, value) => hasFallen before value
      unanchored := samples.head?.any fun first => start ≤ first.1 }
  else ⟨samples.filter fun sample => start ≤ sample.1, 0, false⟩

end Series

end SeriesQuery
