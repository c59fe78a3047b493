import SeriesQuery.Bucket
import SeriesQuery.EngineSettings
import SeriesQuery.Failure
import SeriesQuery.Filter.Predicate
import SeriesQuery.Request
/-! Requests with everything checked that does not depend on stored samples. -/
namespace SeriesQuery

structure Plan (V : Type) where
  metric : String
  grid : Grid
  /-- How far before the grid samples are fetched, in milliseconds. -/
  lookback : Int
  fetchStart : Int
  timeReducer : TimeReducer
  spaceReducer : SpaceReducer
  filter : Filter
  groupBy : List String
  threshold : Option (Threshold V)
  timeout : Duration

namespace Plan

/-- Seconds as milliseconds in 64 bits. -/
def stepOfSeconds (seconds : Int) : Except QueryFault Int :=
  if seconds ≤ 0 then .error (.secondsNotPositive seconds)
  else if Instant.greatest < seconds * 1000 then .error .secondsTooMany
  else .ok (seconds * 1000)

/-- A grid with no more steps than the limit. -/
def gridWithin (limit : Nat) (start stop step : Int) : Except QueryFault Grid := do
  let grid ← Grid.cover start stop step
  if limit < grid.size then throw (.tooManySteps grid.size limit)
  return grid

variable {V : Type} [Scalar V]

def checkThreshold (request : ThresholdRequest V) (reducer : SpaceReducer) :
    Except QueryFault (Threshold V) := do
  if !Scalar.isFinite request.bound then throw .thresholdNotFinite
  if reducer ≠ .sum ∧ reducer ≠ .count then throw (.thresholdReducer reducer)
  return ⟨request.bound, ← Comparison.read request.comparison⟩

/-- Label names without blanks around them, each of them once. -/
def groupNames (names : List String) : Except QueryFault (List String) :=
  let trimmed := names.map Text.trim
  if "" ∈ trimmed then .error .groupKeyEmpty else .ok trimmed.eraseDups

/-- At least one step, and the lookback of the engine as far as 64 bits can tell. -/
def lookbackOf (settings : EngineSettings) (step : Int) : Int :=
  max (min (settings.lookback.milliseconds : Int) Instant.greatest) step

def fetchStartOf (request : Request V) (grid : Grid) (lookback : Int) : Except QueryFault Int :=
  if grid.start - lookback < Instant.least then .error (.lookbackTooLong request.start lookback)
  else .ok (grid.start - lookback)

def ofRequest (patterns : PatternEngine) (request : Request V) (settings : EngineSettings) :
    Except Failure (Plan V) := do
  let asked {α : Type} : Except QueryFault α → Except Failure α := Except.mapError .query
  let metric := Text.trim request.metric
  if metric = "" then throw (.query .metricMissing)
  let step ← asked (stepOfSeconds request.stepSeconds)
  let grid ← asked (gridWithin settings.maxPoints request.start request.stop step)
  let timeReducer ← asked (TimeReducer.read request.timeReducer)
  let spaceReducer ← asked (SpaceReducer.read request.spaceReducer)
  let threshold ← asked (request.threshold.mapM (checkThreshold · spaceReducer))
  let groupBy ← asked (groupNames request.groupBy)
  let filter ← (Filter.ofText patterns request.filter).mapError .filter
  let lookback := lookbackOf settings step
  let fetchStart ← asked (fetchStartOf request grid lookback)
  return { metric, grid, lookback, fetchStart, timeReducer, spaceReducer, filter, groupBy, threshold
           timeout := (request.timeout.map .ofMilliseconds).getD settings.queryTimeout }

/-- What is read off histogram buckets, if anything. -/
def bucketQuery? (plan : Plan V) : Option (BucketQuery V) :=
  match plan.threshold with
  | some threshold => some (.threshold threshold)
  | none => plan.spaceReducer.quantile?.map .quantile

/-- Whether the plan makes sense for metrics of a type. -/
def checkType (plan : Plan V) (type : MetricType) : Except QueryFault Unit := do
  if type = .gauge ∧ plan.timeReducer.needsIncrements then
    throw (.needsCounter plan.timeReducer plan.metric)
  if type ≠ .histogram then
    if plan.threshold.isSome then throw (.thresholdNeedsHistogram plan.metric type)
    if (plan.spaceReducer.quantile? : Option V).isSome then
      throw (.percentileNeedsHistogram plan.spaceReducer plan.metric type)

end Plan

end SeriesQuery
