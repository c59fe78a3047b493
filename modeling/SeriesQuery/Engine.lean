import SeriesQuery.Counters
import SeriesQuery.Increments
import SeriesQuery.Plan
import SeriesQuery.Store
/-!
Queries over a store. Series become increments, increments curves, and curves of one group one
curve; of histograms, thresholds and percentiles are then read off the curves of the buckets.
-/
namespace SeriesQuery

namespace Plan

variable {V : Type} [Scalar V]

/-- The series that a plan looks at. -/
def select (plan : Plan V) (store : Store V) : List (Series V) :=
  store.select plan.metric plan.filter plan.fetchStart plan.grid.stop

def fetch (plan : Plan V) (store : Store V) : Except SeriesFault (List (Series V)) :=
  store.fetch plan.metric plan.filter plan.fetchStart plan.grid.stop

/-- The one type of all series, if there are any. -/
def commonType (metric : String) : List (Series V) → Except QueryFault (Option MetricType)
  | [] => .ok none
  | first :: rest =>
    match rest.find? fun series => series.type != first.type with
    | some other => .error (.mixedTypes metric first.type other.type)
    | none => .ok (some first.type)

/-- One series reduced over time. -/
def curve (plan : Plan V) (series : Series V) : Curve V :=
  let points := (series.increments plan.grid.start).points
  .ofSummaries series.key.labels (plan.grid.summaries points) plan.timeReducer
    plan.grid.stepSeconds

/-- Buckets hold counts and are added up, whatever is read off them afterwards. -/
def groupReducer (reducer : SpaceReducer) (type : MetricType) : SpaceReducer :=
  match type, reducer with
  | .histogram, .count => .sum
  | .histogram, .percentile _ => .sum
  | _, reducer => reducer

/-- The groups of the curves of series. -/
def groups (plan : Plan V) (type : MetricType) (series : List (Series V)) : Grouping V :=
  .ofCurves plan.groupBy (type = .histogram) (series.map plan.curve)

/-- All series reduced over time and then group by group. -/
def reduced (plan : Plan V) (type : MetricType) (series : List (Series V))
    (listing : Labels → Nat := fun _ => 0) : List (Curve V) :=
  (plan.groups type series).reduce (groupReducer plan.spaceReducer type) listing

/-- Curves by their labels without the bound. -/
def byGroup (curves : List (Curve V)) : SortedMap Labels (List (Curve V)) :=
  curves.foldl
    (fun groups curve =>
      groups.update (curve.labels.erase boundLabel) fun old => old.getD [] ++ [curve])
    ∅

/-- One curve from the buckets of each group, and at how many steps buckets are inconsistent. -/
def collapse (curves : List (Curve V)) (query : BucketQuery V) : List (Curve V) × Nat :=
  let evaluated := (byGroup curves).entries.map fun (labels, members) =>
    Bucket.evaluateGroup labels members query
  ((evaluated.map (·.1)).filter fun curve => !curve.points.isEmpty,
    (evaluated.map (·.2)).foldl (· + ·) 0)

/-- The answer over fetched series of one type, and at how many steps buckets are inconsistent. -/
def answer (plan : Plan V) (type : MetricType) (series : List (Series V))
    (listing : Labels → Nat := fun _ => 0) : List (Curve V) × Nat :=
  let curves := plan.reduced type series listing
  match type, plan.bucketQuery? with
  | .histogram, some query => collapse curves query
  | _, _ => (curves, 0)

end Plan

structure Engine (V : Type) where
  store : Store V
  settings : EngineSettings
  patterns : PatternEngine
  counters : Counters

namespace Engine

variable {V : Type} [Scalar V]

/-- An engine that has met nothing yet. -/
def ofStore (store : Store V) (settings : EngineSettings) (patterns : PatternEngine) : Engine V :=
  ⟨store, settings, patterns, {}⟩

def plan (engine : Engine V) (request : Request V) : Except Failure (Plan V) :=
  Plan.ofRequest engine.patterns request engine.settings

/-- What the engine has met after the answer over fetched series. -/
def count (counters : Counters) (plan : Plan V) (series : List (Series V)) (inconsistent : Nat) :
    Counters :=
  let increments := series.map fun series => series.increments plan.grid.start
  counters.addSeries series.length
    |>.addRestarts ((increments.map (·.restarts)).foldl (· + ·) 0)
    |>.addUnanchored (increments.countP (·.unanchored))
    |>.addInconsistentSteps inconsistent

/-- Runs a plan. Without series to look at the answer is empty. -/
def execute (engine : Engine V) (counters : Counters) (plan : Plan V) (schedule : Schedule) :
    Counters × Except Failure (List (Curve V)) :=
  match plan.fetch engine.store with
  | .error fault => (counters.addFailure, .error (.series fault))
  | .ok series =>
    match Plan.commonType plan.metric series with
    | .error fault => (counters.addFailure, .error (.query fault))
    | .ok none => (counters, .ok [])
    | .ok (some type) =>
      match plan.checkType type with
      | .error fault => (counters.addFailure, .error (.query fault))
      | .ok () =>
        let arrived := schedule.arrive engine.settings.workers series
        let (curves, inconsistent) := plan.answer type arrived schedule.listing
        (count counters plan series inconsistent, .ok curves)

/-- Answers a request; one that makes no plan is not counted. -/
def query (engine : Engine V) (request : Request V) (schedule : Schedule := {}) :
    Engine V × Except Failure (List (Curve V)) :=
  match engine.plan request with
  | .error failure => (engine, .error failure)
  | .ok plan =>
    let (counters, result) := engine.execute engine.counters.addQuery plan schedule
    ({ engine with counters := counters }, result)

end Engine

end SeriesQuery
