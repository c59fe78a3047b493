import SeriesQuery.Instant
import SeriesQuery.Metric
import SeriesQuery.Reducer.Space
import SeriesQuery.Threshold
/-! Why a query can never succeed as it was asked. -/
namespace SeriesQuery

inductive QueryFault where
  | stepNotPositive (step : Int)
  | endNotAfterStart (start stop : Int)
  /-- The start rounded down to a step, or the length of the range, has no 64-bit value. -/
  | rangeTooWide (start stop : Int)
  | metricMissing
  | secondsNotPositive (seconds : Int)
  | secondsTooMany
  | tooManySteps (steps limit : Nat)
  | unknownTimeReducer (name : String)
  | unknownSpaceReducer (name : String)
  | unknownComparison (symbol : String)
  | thresholdNotFinite
  | thresholdReducer (reducer : SpaceReducer)
  | groupKeyEmpty
  | lookbackTooLong (start : Int) (lookback : Int)
  | needsCounter (reducer : TimeReducer) (metric : String)
  | thresholdNeedsHistogram (metric : String) (type : MetricType)
  | percentileNeedsHistogram (reducer : SpaceReducer) (metric : String) (type : MetricType)
  | mixedTypes (metric : String) (first other : MetricType)
  deriving DecidableEq, Repr

def QueryFault.message : QueryFault → String
  | stepNotPositive step => s!"step must be positive, got {step}ms"
  | endNotAfterStart start stop => s!"end ({stop}) must be after start ({start})"
  | rangeTooWide start stop => s!"time range [{start}, {stop}) is out of range"
  | metricMissing => "metric_name is required"
  | secondsNotPositive seconds => s!"step_seconds must be positive, got {seconds}"
  | secondsTooMany => "step_seconds is too large"
  | tooManySteps steps limit =>
    s!"query spans {steps} steps, limit is {limit}; use a larger step"
  | unknownTimeReducer name => "unknown time aggregation '" ++ name ++ "'"
  | unknownSpaceReducer name => "unknown space aggregation '" ++ name ++ "'"
  | unknownComparison symbol =>
    "unsupported comparison operator '" ++ symbol ++ "', expected '<=' or '>'"
  | thresholdNotFinite => "threshold must be a finite number"
  | thresholdReducer reducer =>
    "threshold queries need sum or count space aggregation, got " ++ reducer.name
  | groupKeyEmpty => "group_by keys must not be empty"
  | lookbackTooLong start lookback =>
    s!"start_ms {start} leaves no room for a {lookback}ms lookback"
  | needsCounter reducer metric =>
    "time aggregation " ++ reducer.name ++ " is not defined for gauge metric " ++ metric
  | thresholdNeedsHistogram metric type =>
    "threshold queries need a histogram metric, " ++ metric ++ " is a " ++ type.name
  | percentileNeedsHistogram reducer metric type =>
    reducer.name ++ " needs a histogram metric, " ++ metric ++ " is a " ++ type.name
  | mixedTypes metric first other =>
    "metric " ++ metric ++ " mixes " ++ first.name ++ " and " ++ other.name ++
      " series; narrow the filter"

/-- The reducer a text names, blanks around it and the case of its letters apart. -/
def TimeReducer.read (text : String) : Except QueryFault TimeReducer :=
  let name := Reducer.spelling text
  match ofName? name with
  | some reducer => .ok reducer
  | none => .error (.unknownTimeReducer name)

/-- The reducer a text names, blanks around it and the case of its letters apart. -/
def SpaceReducer.read (text : String) : Except QueryFault SpaceReducer :=
  let name := Reducer.spelling text
  match ofName? name with
  | some reducer => .ok reducer
  | none => .error (.unknownSpaceReducer name)

def Comparison.read (text : String) : Except QueryFault Comparison :=
  let symbol := Text.trim text
  match ofSymbol? symbol with
  | some comparison => .ok comparison
  | none => .error (.unknownComparison symbol)

end SeriesQuery
