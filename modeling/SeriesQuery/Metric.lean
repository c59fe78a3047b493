/-! Kinds of metrics, and how a sample relates to the samples before it. -/
namespace SeriesQuery

inductive MetricType where
  /-- A measurement at a point in time. -/
  | gauge
  /-- A counter that only grows, restarts apart. -/
  | sum
  /-- The counter of one histogram bucket. -/
  | histogram
  deriving DecidableEq, Repr

namespace MetricType

def name : MetricType → String
  | gauge => "gauge"
  | sum => "sum"
  | histogram => "histogram"

def all : List MetricType := [gauge, sum, histogram]

def ofName? (name : String) : Option MetricType := all.find? (·.name == name)

/-- Whether values count something and so have increments. -/
def isMonotonic : MetricType → Bool
  | gauge => false
  | sum => true
  | histogram => true

theorem ofName?_name (type : MetricType) : ofName? type.name = some type := by
  cases type <;> decide

end MetricType

inductive Temporality where
  /-- A running total. -/
  | cumulative
  /-- The increment since the sample before. -/
  | delta
  | unspecified
  deriving DecidableEq, Repr

namespace Temporality

def name : Temporality → String
  | cumulative => "cumulative"
  | delta => "delta"
  | unspecified => "unspecified"

def all : List Temporality := [cumulative, delta, unspecified]

def ofName? (name : String) : Option Temporality := all.find? (·.name == name)

/-- The name as messages write it. -/
def title : Temporality → String
  | cumulative => "Cumulative"
  | delta => "Delta"
  | unspecified => "Unspecified"

theorem ofName?_name (temporality : Temporality) : ofName? temporality.name = some temporality := by
  cases temporality <;> decide

end Temporality

end SeriesQuery
