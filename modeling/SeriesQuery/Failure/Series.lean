import SeriesQuery.Instant
import SeriesQuery.Labels
import SeriesQuery.Metric
/-! Why samples are refused. -/
namespace SeriesQuery

/-- Values that no series holds. -/
inductive NonFinite where
  | notANumber
  | infinite (negative : Bool)
  deriving DecidableEq, Repr

namespace NonFinite

def name : NonFinite → String
  | notANumber => "NaN"
  | infinite false => "inf"
  | infinite true => "-inf"

def of? {V : Type} [Scalar V] (value : V) : Option NonFinite :=
  if Scalar.isFinite value then none
  else if Scalar.isNaN value then some notANumber
  else some (infinite (decide (value < Scalar.ofNat 0)))

end NonFinite

/-- What is wrong with one line of a fixture. -/
inductive LineFault where
  /-- No record, and why not in the words of the decoder. -/
  | unreadable (reason : String)
  | unknownType (name : String)
  | unknownTemporality (name : String)
  deriving DecidableEq, Repr

inductive SeriesFault where
  | repeatedInstant (instant : Int) (key : SeriesKey)
  | notFinite (value : NonFinite) (key : SeriesKey)
  /-- A series is stored with one type and temporality, and a sample has another. -/
  | conflict (key : SeriesKey) (stored given : MetricType × Temporality)
  | line (number : Nat) (fault : LineFault)
  deriving DecidableEq

namespace SeriesFault

def kind (type : MetricType × Temporality) : String := type.1.name ++ " (" ++ type.2.title ++ ")"

def message : SeriesFault → String
  | repeatedInstant instant key => s!"duplicate timestamp {instant} in series " ++ key.render
  | notFinite value key => "non-finite value " ++ value.name ++ " for " ++ key.render
  | conflict key stored given =>
    key.render ++ " is stored as " ++ kind stored ++ ", got " ++ kind given
  | line number fault =>
    let place := s!"line {number}"
    match fault with
    | .unreadable reason => place ++ ": " ++ reason
    | .unknownType name => place ++ ": unknown metric type '" ++ name ++ "'"
    | .unknownTemporality name => place ++ ": unknown temporality '" ++ name ++ "'"

end SeriesFault

end SeriesQuery
