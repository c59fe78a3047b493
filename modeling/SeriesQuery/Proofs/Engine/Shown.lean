import SeriesQuery.Proofs.Engine.Buckets
import SeriesQuery.Proofs.Engine.Outcome
import SeriesQuery.Proofs.Order
/-!
What an answer shows for given labels at a given step, and that this is all there is to tell at the
step: whatever is read off the buckets of a group follows from the values shown there.
-/
namespace SeriesQuery.Plan

open SortedMap

variable {V : Type} [Scalar V]

theorem points_eq_nil {plan : Plan V} {series : Series V} (unseen : plan.window series = []) :
    plan.points series = [] := by
  rw [points, unseen]
  rfl

theorem valueAt?_eq_none {plan : Plan V} {series : Series V} (unseen : plan.window series = [])
    (boundary : Int) : plan.valueAt? series boundary = none := by
  rw [← Option.not_isSome_iff_eq_none, valueAt?_isSome_iff, points_eq_nil unseen]
  simp

omit [Scalar V] in
/-- Series of the right name and labels count even if none of their samples is seen. -/
theorem filterMap_seen {W : Type} (plan : Plan V) (list : List (Series V))
    {change : Series V → Option W}
    (absent : ∀ series, plan.window series = [] → change series = none) :
    (list.filter fun series =>
      series.key.metric == plan.metric && plan.filter.accepts series.key.labels &&
        !(plan.window series).isEmpty).filterMap change =
      (list.filter fun series =>
        series.key.metric == plan.metric && plan.filter.accepts series.key.labels).filterMap
          change := by
  rw [List.filterMap_filter, List.filterMap_filter]
  congr 1
  funext series
  cases unseen : plan.window series with
  | nil => simp [absent series unseen]
  | cons sample rest => simp

omit [Scalar V] in
theorem filterMap_arrivals {W : Type} (engine : Engine V) (plan : Plan V) (schedule : Schedule)
    {change : Series V → Option W}
    (absent : ∀ series, plan.window series = [] → change series = none) :
    (engine.arrivals plan schedule).filterMap change =
      ((schedule.arrive engine.settings.workers engine.store.series.values).filter fun series =>
        series.key.metric == plan.metric && plan.filter.accepts series.key.labels).filterMap
          change := by
  rw [Engine.arrivals, sources, ← Schedule.filter_arrive]
  exact plan.filterMap_seen _ absent

theorem Grouped.shows_iff {plan : Plan V} {series : List (Series V)} {keyOf : Labels → Labels}
    {reducer : SpaceReducer} {curves : List (Curve V)}
    (grouped : plan.Grouped series keyOf reducer curves) (labels : Labels) (boundary : Int)
    (value : V) :
    Curve.Shows curves labels boundary value ↔
      reducer.reduce (series.filterMap fun member =>
        if keyOf member.key.labels = labels then plan.valueAt? member boundary else none) =
          some value := by
  constructor
  · rintro ⟨curve, member, rfl, found⟩
    rw [← grouped.value curve member, found]
  · intro reduced
    have some' : (series.filterMap fun member =>
        if keyOf member.key.labels = labels then plan.valueAt? member boundary else none) ≠ [] := by
      intro nothing
      rw [nothing, SpaceReducer.reduce_nil] at reduced
      cases reduced
    rcases (plan.values_ne_nil_iff series keyOf labels boundary).mp some' with
      ⟨-, member, held, same, point, inside, -⟩
    rcases (grouped.groups labels).mpr ⟨member, held, same, List.ne_nil_of_mem inside⟩ with
      ⟨curve, present, rfl⟩
    exact ⟨curve, present, rfl, (grouped.value curve present boundary).trans reduced⟩

theorem Collapsed.shows_iff {perBucket curves : List (Curve V)}
    {read : List (Bucket V) → Option V} (collapsed : Collapsed perBucket read curves)
    (labels : Labels) (boundary : Int) (value : V) :
    Curve.Shows curves labels boundary value ↔
      read (Bucket.prepare (bucketsAt perBucket labels boundary)) = some value := by
  constructor
  · rintro ⟨curve, member, rfl, found⟩
    rw [← collapsed.value curve member, found]
  · intro answered
    rcases (collapsed.groups labels).mpr ⟨boundary, Option.isSome_of_eq_some answered⟩ with
      ⟨curve, present, rfl⟩
    exact ⟨curve, present, rfl, (collapsed.value curve present boundary).trans answered⟩

/-- The buckets of a group at a step are among the values shown there. -/
theorem bucketsAt_eq (curves : List (Curve V)) (labels : Labels) (boundary : Int) :
    bucketsAt curves labels boundary =
      ((Curve.column curves boundary).filter fun entry =>
        entry.1.erase boundLabel = labels).filterMap
          fun entry => entry.1.bound?.map fun bound => ⟨bound, entry.2⟩ := by
  rw [bucketsAt, Curve.column, List.filterMap_filter, List.filterMap_filter,
    List.filterMap_filterMap]
  congr 1
  funext curve
  by_cases same : curve.labels.erase boundLabel = labels
  · unfold Bucket.at?
    cases held : curve.points.get? boundary <;>
      cases bounded : (curve.labels.bound? : Option V) <;> simp [same, bounded]
  · cases curve.points.get? boundary <;> simp [same]

theorem ordered_reduced [Std.TransCmp (Scalar.compareTotal : V → V → Ordering)] (plan : Plan V)
    (type : MetricType) (series : List (Series V)) (listing : Labels → Nat) :
    ((plan.reduced type series listing).map (·.labels)).Pairwise (Labels.Precedes V listing) :=
  Grouping.ordered_reduce _ _ _

end SeriesQuery.Plan
