import SeriesQuery.Summary
import SeriesQuery.Text.Blank
/-! Reductions of the values of one series inside one step. -/
namespace SeriesQuery

inductive TimeReducer where
  | sum
  | average
  | minimum
  | maximum
  | count
  /-- The sum of increments, for counters only. -/
  | increase
  /-- The increase per second. -/
  | rate
  | latest
  deriving DecidableEq, Repr

/-- The form in which names of reducers are looked up. -/
def Reducer.spelling (text : String) : String :=
  String.ofList ((Text.trim text).toList.map Char.toLower)

namespace TimeReducer

def name : TimeReducer → String
  | sum => "sum"
  | average => "avg"
  | minimum => "min"
  | maximum => "max"
  | count => "count"
  | increase => "increase"
  | rate => "rate"
  | latest => "latest"

def all : List TimeReducer := [sum, average, minimum, maximum, count, increase, rate, latest]

/-- The reducer a spelling names; two of them have a second name. -/
def ofName? (name : String) : Option TimeReducer :=
  if name = "mean" then some average
  else if name = "last" then some latest
  else all.find? (·.name == name)

/-- Whether the reduction is defined for increments only. -/
def needsIncrements : TimeReducer → Bool
  | increase | rate => true
  | _ => false

variable {V : Type} [Scalar V]

def finish (reducer : TimeReducer) (summary : Summary V) (stepSeconds : V) : V :=
  match reducer with
  | sum | increase => summary.sum
  | average => summary.average
  | minimum => summary.least
  | maximum => summary.greatest
  | count => Scalar.ofNat summary.count
  | rate => summary.sum / stepSeconds
  | latest => summary.latest

/-- Reduces values given in time order. -/
def reduce (reducer : TimeReducer) (values : List V) (stepSeconds : V) : Option V :=
  let points := values.zipIdx.map fun (value, position) => ((position : Int), value)
  (Summary.ofList? points).map fun summary => reducer.finish summary stepSeconds

theorem ofName?_name (reducer : TimeReducer) : ofName? reducer.name = some reducer := by
  cases reducer <;> decide

end TimeReducer

end SeriesQuery
