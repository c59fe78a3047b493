import SeriesQuery.Proofs.Engine.Schedules
import SeriesQuery.Proofs.Shift
/-!
Queries moved in time. Main statement: over a moved store, a request moved along by whole steps is
answered as by a run like this one on the spot, refusals and counters included, and only the times
of the answer move.
-/
namespace SeriesQuery

open SortedMap

variable {V : Type} [Scalar V]

theorem Grid.align_add {step offset : Int} (multiple : step ∣ offset) (instant : Int) :
    align (instant + offset) step = align instant step + offset := by
  rcases multiple with ⟨factor, rfl⟩
  unfold align
  rw [Int.add_mul_emod_self_left]
  omega

theorem Grid.eq_of_fields {a b : Grid} (starts : a.start = b.start) (stops : a.stop = b.stop)
    (steps : a.step = b.step) : a = b := by
  cases a
  cases b
  cases starts
  cases stops
  cases steps
  rfl

namespace Plan

def shift (plan : Plan V) (offset : Int) : Plan V :=
  plan.during (plan.grid.shift offset) (plan.fetchStart + offset)

omit [Scalar V] in
theorem select_shift (plan : Plan V) (store : Store V) (offset : Int) :
    (plan.shift offset).select (store.shift offset) =
      (plan.select store).map (·.shift offset) :=
  store.select_shift offset plan.metric plan.filter plan.fetchStart plan.grid.stop

omit [Scalar V] in
theorem commonType_shift (metric : String) (series : List (Series V)) (offset : Int) :
    commonType metric (series.map (·.shift offset)) = commonType metric series := by
  cases series with
  | nil => rfl
  | cons first rest =>
      have other : (rest.map (·.shift offset)).find?
          (fun series => series.type != (first.shift offset).type) =
            (rest.find? fun series => series.type != first.type).map (·.shift offset) :=
        List.find?_map
      rw [List.map_cons, commonType, commonType, other]
      cases rest.find? fun series => series.type != first.type <;> rfl

theorem curve_shift (plan : Plan V) (series : Series V) (offset : Int) :
    (plan.shift offset).curve (series.shift offset) = (plan.curve series).shift offset := by
  have counted := series.increments_shift offset plan.grid.start
  calc
    (plan.shift offset).curve (series.shift offset) =
        .ofSummaries series.key.labels ((plan.grid.shift offset).summaries
          ((series.increments plan.grid.start).shift offset).points) plan.timeReducer
            plan.grid.stepSeconds := by
      rw [← counted]
      rfl
    _ = (plan.curve series).shift offset :=
      Curve.ofSummaries_shift series.key.labels plan.grid offset plan.timeReducer
        plan.grid.stepSeconds (series.sorted_increments plan.grid.start)

theorem reduced_shift (plan : Plan V) (type : MetricType) (series : List (Series V))
    (listing : Labels → Nat) (offset : Int) :
    (plan.shift offset).reduced type (series.map (·.shift offset)) listing =
      (plan.reduced type series listing).map (·.shift offset) := by
  have curves : (series.map (·.shift offset)).map (plan.shift offset).curve =
      (series.map plan.curve).map (·.shift offset) := by
    rw [List.map_map, List.map_map]
    exact congrArg (series.map ·) (funext fun series => plan.curve_shift series offset)
  rw [reduced, groups, curves, Grouping.ofCurves_shift, Grouping.reduce_shift]
  rfl

/-- Groups of curves that have all moved. -/
def shiftGroups (groups : SortedMap Labels (List (Curve V))) (offset : Int) :
    SortedMap Labels (List (Curve V)) :=
  groups.mapValues fun _ members => members.map (·.shift offset)

omit [Scalar V] in
theorem byGroup_shift (curves : List (Curve V)) (offset : Int) :
    byGroup (curves.map (·.shift offset)) = shiftGroups (byGroup curves) offset := by
  rw [byGroup, List.foldl_map]
  change curves.foldl _ (shiftGroups ∅ offset) = _
  apply List.foldl_hom (shiftGroups · offset)
  intro groups curve
  apply update_mapValues
  intro old
  cases old with
  | none => rfl
  | some members => simp

theorem collapse_shift (curves : List (Curve V)) (query : BucketQuery V) (offset : Int) :
    collapse (curves.map (·.shift offset)) query =
      ((collapse curves query).1.map (·.shift offset), (collapse curves query).2) := by
  have evaluated : (byGroup (curves.map (·.shift offset))).entries.map
      (fun group => Bucket.evaluateGroup group.1 group.2 query) =
        ((byGroup curves).entries.map fun group =>
          Bucket.evaluateGroup group.1 group.2 query).map
            fun result => (result.1.shift offset, result.2) := by
    rw [byGroup_shift, shiftGroups, mapValues, List.map_map, List.map_map]
    exact congrArg ((byGroup curves).entries.map ·)
      (funext fun group => Bucket.evaluateGroup_shift group.1 group.2 query offset)
  simp only [collapse, evaluated, List.map_map, List.filter_map, Function.comp_def,
    Curve.points_shift, isEmpty_shift]

theorem answer_shift (plan : Plan V) (type : MetricType) (series : List (Series V))
    (listing : Labels → Nat) (offset : Int) :
    (plan.shift offset).answer type (series.map (·.shift offset)) listing =
      ((plan.answer type series listing).1.map (·.shift offset),
        (plan.answer type series listing).2) := by
  have asked : (plan.shift offset).bucketQuery? = plan.bucketQuery? :=
    plan.bucketQuery?_during _ _
  simp only [answer, asked, reduced_shift]
  split
  · exact collapse_shift _ _ offset
  · rfl

/-- A plan of the same request, moved by whole steps. -/
theorem Checked.shift {patterns : PatternEngine} {request : Request V} {settings : EngineSettings}
    {plan other : Plan V} {offset : Int} (checked : Checked patterns request settings plan)
    (moved : Checked patterns
      (request.during (request.start + offset) (request.stop + offset)) settings other)
    (multiple : request.stepSeconds * 1000 ∣ offset) : other = plan.shift offset := by
  rcases checked.during moved with ⟨step, same⟩
  have begins : other.grid.start = plan.grid.start + offset := by
    rw [moved.cover.1, step, checked.cover.1, ← Grid.align_add (checked.step_eq ▸ multiple)]
    rfl
  have ends : other.grid.stop = plan.grid.stop + offset := by
    rw [moved.cover.2, checked.cover.2]
    rfl
  have grid : other.grid = plan.grid.shift offset := Grid.eq_of_fields begins ends step
  have lookback : other.lookback = plan.lookback := by
    rw [same, during_lookback]
  have fetchStart : other.fetchStart = plan.fetchStart + offset := by
    rw [moved.fetchStart_eq, checked.fetchStart_eq, lookback, begins]
    omega
  rw [same, grid, fetchStart]
  rfl

end Plan

namespace Engine

def shift (engine : Engine V) (offset : Int) : Engine V :=
  { engine with store := engine.store.shift offset }

theorem count_shift (counters : Counters) (plan : Plan V) (series : List (Series V))
    (inconsistent : Nat) (offset : Int) :
    count counters (plan.shift offset) (series.map (·.shift offset)) inconsistent =
      count counters plan series inconsistent := by
  have counted : (series.map (·.shift offset)).map
      (fun series => series.increments (plan.shift offset).grid.start) =
        (series.map fun series => series.increments plan.grid.start).map (·.shift offset) := by
    rw [List.map_map, List.map_map]
    exact congrArg (series.map ·)
      (funext fun series => series.increments_shift offset plan.grid.start)
  simp only [count, counted, List.length_map, List.map_map, List.countP_map]
  rfl

theorem execute_shift (engine : Engine V) (counters : Counters) (plan : Plan V)
    (schedule : Schedule) (offset : Int) :
    (engine.shift offset).execute counters (plan.shift offset) schedule =
      ((engine.execute counters plan schedule).1,
        (engine.execute counters plan schedule).2.map (List.map (·.shift offset))) := by
  have metric : (plan.shift offset).metric = plan.metric := plan.during_metric _ _
  have checked (type : MetricType) : (plan.shift offset).checkType type = plan.checkType type :=
    plan.checkType_during _ _ type
  have selected : (plan.shift offset).select (engine.shift offset).store =
      (plan.select engine.store).map (·.shift offset) := plan.select_shift engine.store offset
  have keeps (member : Series V) : (member.shift offset).key = member.key := rfl
  have workers : (engine.shift offset).settings.workers = engine.settings.workers := rfl
  simp only [execute, Plan.fetch_eq_select, selected, metric, Plan.commonType_shift, checked,
    workers, schedule.arrive_map _ keeps, Plan.answer_shift, count_shift]
  cases Plan.commonType plan.metric (plan.select engine.store) with
  | error fault => rfl
  | ok found =>
      cases found with
      | none => rfl
      | some type =>
          cases accepted : plan.checkType type with
          | error fault =>
              simp only [accepted]
              rfl
          | ok _ =>
              simp only [accepted]
              rfl

theorem query_shift [Std.TransCmp (Scalar.compareTotal : V → V → Ordering)]
    [Std.LawfulEqCmp (Scalar.compareTotal : V → V → Ordering)] {engine : Engine V}
    {request : Request V} {offset : Int} {plan other : Plan V}
    (planned : engine.plan request = .ok plan)
    (replanned : engine.plan
      (request.during (request.start + offset) (request.stop + offset)) = .ok other)
    (multiple : request.stepSeconds * 1000 ∣ offset) {schedule later : Schedule}
    (alike : engine.RunsAlike plan schedule later) :
    (engine.shift offset).query
        (request.during (request.start + offset) (request.stop + offset)) later =
      ((engine.query request schedule).1.shift offset,
        (engine.query request schedule).2.map (List.map (·.shift offset))) := by
  have checked := Plan.ofRequest_eq_ok_iff.mp planned
  have moved := Plan.ofRequest_eq_ok_iff.mp replanned
  have same := checked.shift moved multiple
  have planned' : (engine.shift offset).plan
      (request.during (request.start + offset) (request.stop + offset)) = .ok (plan.shift offset) :=
    same ▸ replanned
  have counters : (engine.shift offset).counters = engine.counters := rfl
  rw [query_eq_of_alike planned alike]
  simp only [query, planned, planned', counters, execute_shift]
  cases (engine.execute engine.counters.addQuery plan later).2 <;> rfl

/-- A running total that is seen on both sides of zero, and starts again just before it. -/
def ticks : Store Float :=
  let key : SeriesKey := ⟨"ticks", ∅⟩
  ((Store.empty 10).insertAll [
    ⟨key, .sum, .cumulative, -100000, 5⟩, ⟨key, .sum, .cumulative, -60001, 7⟩,
    ⟨key, .sum, .cumulative, -1, 3⟩, ⟨key, .sum, .cumulative, 0, 4⟩,
    ⟨key, .sum, .cumulative, 20000, 9⟩]).1

def ticksRequest : Request Float := (Request.plain "ticks" (-90000) 30000 60).overTime .increase

def ticksPlan : Plan Float where
  metric := "ticks"
  grid := ⟨-120000, 30000, 60000, Grid.minute_pos, by decide⟩
  lookback := 300000
  fetchStart := -420000
  timeReducer := .increase
  spaceReducer := .sum
  filter := .all
  groupBy := []
  threshold := none
  timeout := .ofSeconds 30

/-- The same range four steps later, on the other side of zero. -/
def ticksLater : Request Float :=
  ticksRequest.during (ticksRequest.start + 240000) (ticksRequest.stop + 240000)

theorem query_shift_ticks :
    (ticks.shift 240000).Reached ∧ (withWorkers 4 ticks).plan ticksRequest = .ok ticksPlan ∧
    (withWorkers 4 ticks).plan ticksLater = .ok (ticksPlan.shift 240000) ∧
    ticksPlan.Apart ticks ∧
    ((withWorkers 4 ticks).shift 240000).query ticksLater { listing := fun _ => 1 } =
      (((withWorkers 4 ticks).query ticksRequest).1.shift 240000,
        ((withWorkers 4 ticks).query ticksRequest).2.map (List.map (·.shift 240000))) := by
  have reached : ticks.Reached := (Store.Reached.empty 10).insertAll _
  have planned : (withWorkers 4 ticks).plan ticksRequest = .ok ticksPlan := rfl
  have replanned : (withWorkers 4 ticks).plan ticksLater = .ok (ticksPlan.shift 240000) := rfl
  have apart : ticksPlan.Apart ticks := by
    -- There is one series only.
    have alone : ∀ a ∈ ticksPlan.sources ticks, ∀ b ∈ ticksPlan.sources ticks,
        ticksPlan.groupOf a = ticksPlan.groupOf b := by
      decide +kernel
    intro a first _ b second _ respelt
    exact respelt.1 (alone a first b second)
  exact ⟨reached.shift 240000, planned, replanned, apart,
    query_shift planned replanned (by decide) ⟨.inr rfl, .inl apart⟩⟩

end Engine

end SeriesQuery
