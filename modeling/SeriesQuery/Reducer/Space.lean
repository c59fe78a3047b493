import SeriesQuery.Decimal.Natural
import SeriesQuery.Reducer.Time
/-! Reductions of the values that several series have at one step. -/
namespace SeriesQuery

inductive SpaceReducer where
  | sum
  | average
  | minimum
  | maximum
  | count
  | percentile (percent : Nat)
  deriving DecidableEq, Repr

namespace SpaceReducer

def name : SpaceReducer → String
  | sum => "sum"
  | average => "avg"
  | minimum => "min"
  | maximum => "max"
  | count => "count"
  | percentile percent => "p" ++ toString percent

/-- The percentiles that have names. -/
def percents : List Nat := [50, 75, 90, 95, 99]

/-- A whole percent; leading zeros and a plus sign are passed over. -/
def readPercentile? (text : List Char) : Option SpaceReducer :=
  match text with
  | 'p' :: rest => ((Decimal.natural? 255 rest).filter (· ∈ percents)).map percentile
  | _ => none

/-- The reducers that have a name of their own. -/
def plain : List SpaceReducer := [sum, average, minimum, maximum, count]

def ofName? (name : String) : Option SpaceReducer :=
  if name = "mean" then some average
  else (plain.find? (·.name == name)).or (readPercentile? name.toList)

variable {V : Type} [Scalar V]

def percentOf (percent : Nat) : V := Scalar.ofNat percent / Scalar.ofNat 100

/-- The part of the whole, for percentiles. -/
def quantile? : SpaceReducer → Option V
  | percentile percent => some (percentOf percent)
  | _ => none

/-- The value at a rank of an ordered list, on the line between the two values next to it. -/
def atRank? (ordered : List V) (rank : V) : Option V := do
  let low := Scalar.floor rank
  let high := if (Scalar.ofNat low : V) < rank then low + 1 else low
  let below ← ordered[low]?
  let above ← ordered[high]?
  return below + (above - below) * (rank - Scalar.ofNat low)

def reduce (reducer : SpaceReducer) (values : List V) : Option V :=
  if values.isEmpty then none
  else
    match reducer with
    | sum => some (Scalar.sum values)
    | average => some (Scalar.sum values / Scalar.ofNat values.length)
    | minimum => some (values.foldl Scalar.least Scalar.infinity)
    | maximum => some (values.foldl Scalar.greatest (-Scalar.infinity))
    | count => some (Scalar.ofNat values.length)
    | percentile percent =>
      atRank? (values.mergeSort fun a b => Scalar.compareTotal a b != .gt)
        (percentOf percent * Scalar.ofNat (values.length - 1))

end SpaceReducer

end SeriesQuery
