import SeriesQuery.Instant
import SeriesQuery.Scalar
/-!
What is kept of the values that fall into one step: enough for every reduction over time, without
the values themselves.
-/
namespace SeriesQuery

structure Summary (V : Type) where
  sum : V
  count : Nat
  least : V
  greatest : V
  /-- The value with the latest instant; of several, the one that came last. -/
  latest : V
  latestAt : Int

namespace Summary

variable {V : Type} [Scalar V]

def single (instant : Int) (value : V) : Summary V := ⟨value, 1, value, value, value, instant⟩

def merge (summary other : Summary V) : Summary V :=
  let later := summary.latestAt ≤ other.latestAt
  { sum := summary.sum + other.sum
    count := summary.count + other.count
    least := Scalar.least summary.least other.least
    greatest := Scalar.greatest summary.greatest other.greatest
    latest := if later then other.latest else summary.latest
    latestAt := if later then other.latestAt else summary.latestAt }

def push (summary : Summary V) (instant : Int) (value : V) : Summary V :=
  summary.merge (single instant value)

def average (summary : Summary V) : V := summary.sum / Scalar.ofNat summary.count

/-- The summary of some values in the order they came. -/
def ofList? : List (Int × V) → Option (Summary V)
  | [] => none
  | (first, value) :: rest =>
    some (rest.foldl (fun summary point => summary.push point.1 point.2) (single first value))

end Summary

end SeriesQuery
