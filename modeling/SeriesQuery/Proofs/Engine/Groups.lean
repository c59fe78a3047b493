import SeriesQuery.Pattern.Reader
import SeriesQuery.Proofs.Engine.Meaning
/-!
Queries over gauges and counters. Main statement: the answer is the groups of the series that the
plan looks at, and a group has a value at a step just when one of its series has a point there.
-/
namespace SeriesQuery

open SortedMap

variable {V : Type} [Scalar V]

namespace Plan

omit [Scalar V] in
/-- Cutting series leaves their types alone. -/
theorem types_select_iff {plan : Plan V} {store : Store V} {type : MetricType} :
    (∀ series ∈ plan.select store, series.type = type) ↔
      ∀ series ∈ plan.sources store, series.type = type := by
  rw [select_eq, List.forall_mem_map]
  rfl

omit [Scalar V] in
theorem commonType_eq (metric : String) {series : List (Series V)} {type : MetricType}
    (uniform : ∀ member ∈ series, member.type = type) :
    commonType metric series = .ok (series.head?.map fun _ => type) := by
  cases series with
  | nil => rfl
  | cons first rest =>
      obtain rfl : first.type = type := uniform first List.mem_cons_self
      have alike : rest.find? (fun member => member.type != first.type) = none := by
        apply List.find?_eq_none.mpr
        intro member held
        simp [uniform member (List.mem_cons_of_mem _ held)]
      simp only [commonType, alike, List.head?_cons, Option.map_some]

theorem reduced_nil (plan : Plan V) (type : MetricType) (listing : Labels → Nat) :
    plan.reduced type [] listing = [] := by
  have nothing : (plan.groups type []).ordered listing = [] :=
    (Grouping.ordered_perm _ listing).eq_nil
  rw [reduced, Grouping.reduce, nothing]
  rfl

theorem answer_nil (plan : Plan V) (type : MetricType) (listing : Labels → Nat) :
    plan.answer type [] listing = ([], 0) := by
  unfold answer
  rw [reduced_nil]
  split <;> rfl

/-- Of gauges and counters nothing can be asked that is read off buckets. -/
theorem not_percentile_of_checkType {plan : Plan V} {type : MetricType}
    (scalar : type ≠ .histogram) (accepted : plan.checkType type = .ok ()) (percent : Nat) :
    plan.spaceReducer ≠ .percentile percent := by
  intro asked
  rw [checkType] at accepted
  simp only [asked, SpaceReducer.quantile?] at accepted
  split at accepted <;> split at accepted <;>
    simp_all [bind, Except.bind, throw, throwThe, MonadExceptOf.throw]

end Plan

theorem SpaceReducer.reduce_isSome {reducer : SpaceReducer}
    (plain : ∀ percent, reducer ≠ .percentile percent) (values : List V) :
    (reducer.reduce values).isSome ↔ values ≠ [] := by
  cases values with
  | nil => simp [reduce_nil]
  | cons value rest => cases reducer <;> simp_all [reduce]

namespace Engine

theorem query_eq_execute {engine : Engine V} {request : Request V} {plan : Plan V}
    (planned : engine.plan request = .ok plan) (schedule : Schedule) :
    engine.query request schedule =
      ({ engine with
          counters := (engine.execute engine.counters.addQuery plan schedule).1 },
        (engine.execute engine.counters.addQuery plan schedule).2) := by
  rw [query, planned]

/-- Over series of one type the engine answers, and with the answer of its plan. -/
theorem query_eq_answer {engine : Engine V} {request : Request V} {plan : Plan V}
    {type : MetricType} (planned : engine.plan request = .ok plan)
    (uniform : ∀ series ∈ plan.sources engine.store, series.type = type)
    (accepted : plan.checkType type = .ok ()) (schedule : Schedule) :
    (engine.query request schedule).2 = .ok (plan.answer type
      ((engine.arrivals plan schedule).map plan.cut) schedule.listing).1 := by
  have types := Plan.types_select_iff.mpr uniform
  have common := Plan.commonType_eq plan.metric types
  have arrived : schedule.arrive engine.settings.workers (plan.select engine.store) =
      (engine.arrivals plan schedule).map plan.cut := arrive_select
  simp only [query, planned, execute, Plan.fetch_eq_select]
  cases selected : plan.select engine.store with
  | nil =>
      have nothing : (engine.arrivals plan schedule).map plan.cut = [] := by
        rw [← arrived, selected]
        exact (schedule.arrive_perm _ []).eq_nil
      rw [nothing, Plan.answer_nil]
      rfl
  | cons first rest =>
      rw [selected] at common arrived
      simp only [common, List.head?_cons, Option.map_some, accepted, arrived]

theorem query_grouped {engine : Engine V} {request : Request V} {plan : Plan V}
    {type : MetricType} (reached : engine.store.Reached) (planned : engine.plan request = .ok plan)
    (scalar : type = .gauge ∨ type = .sum)
    (uniform : ∀ series ∈ plan.sources engine.store, series.type = type)
    (accepted : plan.checkType type = .ok ()) (schedule : Schedule) :
    (plan.sources engine.store).Pairwise (fun a b => compare a.key b.key = .lt) ∧
    (engine.arrivals plan schedule).Perm (plan.sources engine.store) ∧
    (engine.settings.workers = 1 →
      engine.arrivals plan schedule = plan.sources engine.store) ∧
    ∃ curves, (engine.query request schedule).2 = .ok curves ∧
      plan.Grouped (engine.arrivals plan schedule) (·.project plan.groupBy) plan.spaceReducer
        curves ∧
      ∀ curve ∈ curves, ∀ boundary, (curve.points.get? boundary).isSome ↔
        boundary ∈ plan.grid.boundaries ∧ ∃ member ∈ plan.sources engine.store,
          member.key.labels.project plan.groupBy = curve.labels ∧
            ∃ point ∈ plan.points member, boundary ≤ point.1 ∧
              point.1 < boundary + plan.grid.step ∧ point.1 < plan.grid.stop := by
  have notHistogram : type ≠ .histogram := by
    rcases scalar with rfl | rfl <;> decide
  have plain := Plan.not_percentile_of_checkType notHistogram accepted
  have answered (members : List (Series V)) : (plan.answer type members schedule.listing).1 =
      plan.reduced type members schedule.listing := by
    rcases scalar with rfl | rfl <;> rfl
  have grouped := plan.reduced_grouped (engine.arrivals plan schedule) type schedule.listing
  have keys : (fun labels : Labels => labels.groupKey plan.groupBy (type = .histogram)) =
      (·.project plan.groupBy) := by
    funext labels
    simp [notHistogram, Labels.groupKey_false]
  have reducer : Plan.groupReducer plan.spaceReducer type = plan.spaceReducer := by
    rcases scalar with rfl | rfl <;> rfl
  rw [keys, reducer] at grouped
  refine ⟨plan.sorted_sources reached, arrivals_perm, arrivals_of_one, _, ?_, grouped, ?_⟩
  · rw [query_eq_answer planned uniform accepted, answered]
  · intro curve member boundary
    have there := plan.values_ne_nil_iff (engine.arrivals plan schedule) (·.project plan.groupBy)
      curve.labels boundary
    simp only [mem_arrivals] at there
    rw [grouped.value curve member, SpaceReducer.reduce_isSome plain]
    exact there

/-- A new engine of the program. -/
def withWorkers (workers : Nat) (store : Store V) : Engine V :=
  ofStore store { workers } Pattern.engine

/-- Two counters: one with a sample before the grid and a restart on it, one seen only once. -/
def hits : Store Float :=
  let host (name : String) : SeriesKey := ⟨"hits", .ofList [("host", name)]⟩
  ((Store.empty 10).insertAll [
    ⟨host "a", .sum, .cumulative, -30000, 5⟩, ⟨host "a", .sum, .cumulative, 0, 7⟩,
    ⟨host "a", .sum, .cumulative, 30000, 3⟩, ⟨host "b", .sum, .cumulative, 0, 4⟩]).1

def hitsRequest : Request Float :=
  ((Request.plain "hits" 0 60000 60).overTime .increase).grouped "host"

def hitsPlan : Plan Float where
  metric := "hits"
  grid := ⟨0, 60000, 60000, by decide, by decide⟩
  lookback := 300000
  fetchStart := -300000
  timeReducer := .increase
  spaceReducer := .sum
  filter := .all
  groupBy := ["host"]
  threshold := none
  timeout := .ofSeconds 30

theorem query_grouped_hits :
    hits.Reached ∧ (withWorkers 1 hits).plan hitsRequest = .ok hitsPlan ∧
    (∀ series ∈ hitsPlan.sources hits, series.type = .sum) ∧ hitsPlan.checkType .sum = .ok () ∧
    ∃ curves, ((withWorkers 1 hits).query hitsRequest).2 = .ok curves ∧
      hitsPlan.Grouped (hitsPlan.sources hits) (·.project ["host"]) .sum curves := by
  have reached : hits.Reached := (Store.Reached.empty 10).insertAll _
  have planned : (withWorkers 1 hits).plan hitsRequest = .ok hitsPlan := rfl
  have uniform : ∀ series ∈ hitsPlan.sources hits, series.type = .sum := by decide +kernel
  have accepted : hitsPlan.checkType .sum = .ok () := rfl
  obtain ⟨-, -, inOrder, curves, answered, grouped, -⟩ :=
    query_grouped reached planned (.inr rfl) uniform accepted {}
  rw [inOrder rfl] at grouped
  exact ⟨reached, planned, uniform, accepted, curves, answered, grouped⟩

end Engine

end SeriesQuery
