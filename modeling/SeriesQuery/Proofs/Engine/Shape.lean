import Mathlib.Data.List.Perm.Subperm
import SeriesQuery.Answer
import SeriesQuery.Proofs.Engine.Shown
import SeriesQuery.Proofs.Plan
/-!
The shape of answers. Main statement: whatever is stored, an answer lists its points on the grid of
the plan in the order of time, at least one and no more than the settings allow, under labels that
were asked for and that differ from series to series, and its series stand in the order of answers.
-/
namespace SeriesQuery

open SortedMap

variable {V : Type}

namespace Answer

/-- What every series of an answer keeps to, over a grid and up to a number of points. -/
structure Shaped (answer : Answer V) (grid : Grid) (limit : Nat) (named : String → Prop) :
    Prop where
  onGrid : ∀ series ∈ answer.series, ∀ point ∈ series.values, point.1 ∈ grid.boundaries
  increasing : ∀ series ∈ answer.series, series.values.Pairwise fun a b => a.1 < b.1
  filled : ∀ series ∈ answer.series, 1 ≤ series.values.length
  within : ∀ series ∈ answer.series, series.values.length ≤ limit
  distinct : (answer.series.map (·.labels)).Nodup
  named : ∀ series ∈ answer.series, ∀ label ∈ series.labels, named label.1

end Answer

namespace Curve

/-- Curves with points on a grid only, each of them with some. -/
structure OnGrid (curves : List (Curve V)) (grid : Grid) : Prop where
  onGrid : ∀ curve ∈ curves, ∀ boundary, (curve.points.get? boundary).isSome →
    boundary ∈ grid.boundaries
  filled : ∀ curve ∈ curves, curve.points.isEmpty = false
  distinct : (curves.map (·.labels)).Nodup

theorem size_le {curve : Curve V} {grid : Grid}
    (onGrid : ∀ boundary, (curve.points.get? boundary).isSome → boundary ∈ grid.boundaries) :
    curve.points.size ≤ grid.size := by
  have subset : curve.points.keys ⊆ grid.boundaries := by
    intro boundary member
    exact onGrid boundary (mem_keys.mp member)
  calc curve.points.size = curve.points.keys.length := by simp [SortedMap.keys, SortedMap.size]
    _ ≤ grid.boundaries.length :=
      (List.subperm_of_subset (keys_nodup curve.points) subset).length_le
    _ = grid.size := by simp [Grid.boundaries]

/-- The answer made of curves on a grid, under the names that their labels have. -/
theorem OnGrid.shaped {curves : List (Curve V)} {grid : Grid} (drawn : OnGrid curves grid)
    {limit : Nat} (room : grid.size ≤ limit) {named : String → Prop}
    (names : ∀ curve ∈ curves, ∀ name, (curve.labels.get? name).isSome → named name) :
    (Answer.success curves).Shaped grid limit named where
  onGrid := by
    intro series member point held
    rcases List.mem_map.mp member with ⟨curve, present, rfl⟩
    have found : curve.points.get? point.1 = some point.2 := get?_eq_some_iff.mpr held
    exact drawn.onGrid curve present point.1 (Option.isSome_of_eq_some found)
  increasing := by
    intro series member
    rcases List.mem_map.mp member with ⟨curve, -, rfl⟩
    exact curve.points.sorted.imp fun less => Int.compare_eq_lt.mp less
  filled := by
    intro series member
    rcases List.mem_map.mp member with ⟨curve, present, rfl⟩
    have filled := drawn.filled curve present
    rw [SortedMap.isEmpty, List.isEmpty_eq_false_iff] at filled
    exact List.length_pos_iff.mpr filled
  within := by
    intro series member
    rcases List.mem_map.mp member with ⟨curve, present, rfl⟩
    exact Nat.le_trans (size_le (drawn.onGrid curve present)) room
  distinct := by
    have labels : (Answer.success curves).series.map (·.labels) =
        (curves.map (·.labels)).map (·.entries) := by
      simp [Answer.success, Answer.ofCurve]
    rw [labels]
    refine List.pairwise_map.mpr (drawn.distinct.imp ?_)
    intro a b apart same
    exact apart (entries_injective same)
  named := by
    intro series member label held
    rcases List.mem_map.mp member with ⟨curve, present, rfl⟩
    have found : curve.labels.get? label.1 = some label.2 := get?_eq_some_iff.mpr held
    exact names curve present label.1 (Option.isSome_of_eq_some found)

end Curve

namespace Plan

variable [Scalar V]

/-- Whether a plan asks for a threshold or a percentile. -/
def ReadsBuckets (plan : Plan V) : Prop :=
  plan.threshold.isSome ∨ ∃ percent, plan.spaceReducer = .percentile percent

theorem bucketQuery?_isSome_iff {plan : Plan V} :
    plan.bucketQuery?.isSome ↔ plan.ReadsBuckets := by
  unfold bucketQuery? ReadsBuckets
  cases plan.threshold with
  | some threshold => simp
  | none => cases plan.spaceReducer <;> simp [SpaceReducer.quantile?]

/-- Of gauges and counters nothing is asked that is read off buckets. -/
theorem not_readsBuckets_of_checkType {plan : Plan V} {type : MetricType}
    (scalar : type ≠ .histogram) (accepted : plan.checkType type = .ok ()) :
    ¬ plan.ReadsBuckets := by
  rintro (asked | ⟨percent, asked⟩)
  · rw [checkType] at accepted
    split at accepted <;>
      simp_all [bind, Except.bind, throw, throwThe, MonadExceptOf.throw]
  · exact not_percentile_of_checkType scalar accepted percent asked

/-- What is asked for is either read off the buckets of histograms, or is the reduced series. -/
theorem answer_cases {plan : Plan V} {type : MetricType}
    (accepted : plan.checkType type = .ok ()) :
    (∃ query, type = .histogram ∧ plan.ReadsBuckets ∧ ∀ series listing,
      (plan.answer type series listing).1 =
        (collapse (plan.reduced type series listing) query).1) ∨
    (¬ plan.ReadsBuckets ∧ ∀ series listing,
      (plan.answer type series listing).1 = plan.reduced type series listing) := by
  by_cases reads : plan.ReadsBuckets
  · obtain rfl : type = .histogram :=
      Classical.byContradiction fun scalar => not_readsBuckets_of_checkType scalar accepted reads
    rcases Option.isSome_iff_exists.mp (bucketQuery?_isSome_iff.mpr reads) with ⟨query, asked⟩
    exact .inl ⟨query, rfl, reads, answer_of_some asked⟩
  · refine .inr ⟨reads, fun series listing => ?_⟩
    rw [← bucketQuery?_isSome_iff, Bool.not_eq_true, Option.isSome_eq_false_iff,
      Option.isNone_iff_eq_none] at reads
    cases type <;> simp [answer, reads]

theorem Grouped.onGrid {plan : Plan V} {series : List (Series V)} {keyOf : Labels → Labels}
    {reducer : SpaceReducer} {curves : List (Curve V)}
    (grouped : plan.Grouped series keyOf reducer curves)
    (plain : ∀ percent, reducer ≠ .percentile percent) : Curve.OnGrid curves plan.grid where
  onGrid := by
    intro curve member boundary there
    rw [grouped.value curve member, SpaceReducer.reduce_isSome plain, values_ne_nil_iff] at there
    exact there.1
  filled := by
    intro curve member
    rcases (grouped.groups curve.labels).mp ⟨curve, member, rfl⟩ with ⟨source, held, same, some'⟩
    rcases List.exists_mem_of_ne_nil _ some' with ⟨point, inside⟩
    -- A member's point falls into some step, and there the group has a value.
    have seen := on_grid_of_mem_points inside
    rcases Option.isSome_iff_exists.mp (plan.grid.stepOf?_isSome_iff.mpr seen) with
      ⟨boundary, stands⟩
    rcases plan.grid.stepOf?_eq_some_iff.mp stands with ⟨onGrid, inStep, before⟩
    rcases of_decide_eq_true inStep with ⟨after, early⟩
    refine isEmpty_eq_false_iff.mpr ⟨boundary, ?_⟩
    rw [grouped.value curve member, SpaceReducer.reduce_isSome plain, values_ne_nil_iff]
    exact ⟨onGrid, source, held, same, point, inside, after, early, before⟩
  distinct := grouped.distinct

/-- Curves on a grid give buckets at its steps only. -/
theorem mem_boundaries_of_bucketsAt {curves : List (Curve V)} {grid : Grid}
    (drawn : Curve.OnGrid curves grid) (labels : Labels) {boundary : Int}
    (some' : bucketsAt curves labels boundary ≠ []) : boundary ∈ grid.boundaries := by
  rcases List.exists_mem_of_ne_nil _ some' with ⟨bucket, held⟩
  rcases List.mem_filterMap.mp held with ⟨curve, inside, stands⟩
  rcases Option.bind_eq_some_iff.mp stands with ⟨bound, -, counted⟩
  rcases Option.bind_eq_some_iff.mp counted with ⟨count, found, -⟩
  exact drawn.onGrid curve (List.mem_of_mem_filter inside) boundary
    (Option.isSome_of_eq_some found)

/-- What is read off curves on a grid is on it as well. -/
theorem collapse_onGrid {curves : List (Curve V)} {grid : Grid}
    (drawn : Curve.OnGrid curves grid) (query : BucketQuery V) :
    Curve.OnGrid (collapse curves query).1 grid where
  onGrid := by
    intro group member boundary there
    rw [(collapse_collapsed curves query).value group member] at there
    refine mem_boundaries_of_bucketsAt drawn group.labels fun nothing => ?_
    rw [nothing, Bucket.answer?_prepare_nil] at there
    cases there
  filled := fun group member => (mem_collapse.mp member).2.2
  distinct := (collapse_collapsed curves query).distinct

theorem groupReducer_plain {plan : Plan V} {type : MetricType}
    (accepted : plan.checkType type = .ok ()) (percent : Nat) :
    groupReducer plan.spaceReducer type ≠ .percentile percent := by
  by_cases histogram : type = .histogram
  · subst histogram
    cases plan.spaceReducer <;> simp [groupReducer]
  · have plain := not_percentile_of_checkType histogram accepted percent
    cases type <;> simp_all [groupReducer]

theorem reduced_onGrid {plan : Plan V} {type : MetricType}
    (accepted : plan.checkType type = .ok ()) (members : List (Series V))
    (listing : Labels → Nat) :
    Curve.OnGrid (plan.reduced type (members.map plan.cut) listing) plan.grid :=
  (plan.reduced_grouped members type listing).onGrid (groupReducer_plain accepted)

section Members

variable {members : List (Series V)} {listing : Labels → Nat}

/-- The labels of a reduced series are those it is grouped by, with the bound for histograms. -/
theorem named_of_mem_reduced {plan : Plan V} {type : MetricType} {curve : Curve V}
    (member : curve ∈ plan.reduced type (members.map plan.cut) listing) {name : String}
    (labelled : (curve.labels.get? name).isSome) :
    name ∈ plan.groupBy ∨ name = boundLabel ∧ type = .histogram ∧ members ≠ [] := by
  rcases ((plan.reduced_grouped members type listing).groups curve.labels).mp
    ⟨curve, member, rfl⟩ with ⟨source, held, same, -⟩
  rw [← same, Labels.get?_groupKey] at labelled
  split at labelled
  · rename_i kept
    rcases kept with ⟨histogram, bound⟩ | grouped
    · exact .inr ⟨bound, of_decide_eq_true histogram, List.ne_nil_of_mem held⟩
    · exact .inl grouped
  · cases labelled

theorem answer_onGrid {plan : Plan V} {type : MetricType}
    (accepted : plan.checkType type = .ok ()) :
    Curve.OnGrid (plan.answer type (members.map plan.cut) listing).1 plan.grid := by
  have drawn := reduced_onGrid accepted members listing
  rcases answer_cases accepted with ⟨query, -, -, same⟩ | ⟨-, same⟩
  · rw [same]
    exact collapse_onGrid drawn query
  · rwa [same]

/-- The labels of an answer are those it is grouped by, with the bound where buckets are shown. -/
theorem named_of_mem_answer {plan : Plan V} {type : MetricType}
    (accepted : plan.checkType type = .ok ()) {curve : Curve V}
    (member : curve ∈ (plan.answer type (members.map plan.cut) listing).1) {name : String}
    (labelled : (curve.labels.get? name).isSome) :
    name ∈ plan.groupBy ∨
      name = boundLabel ∧ ¬ plan.ReadsBuckets ∧ members ≠ [] ∧ type = .histogram := by
  rcases answer_cases accepted with ⟨query, -, -, same⟩ | ⟨plain, same⟩
  · rw [same] at member
    rcases mem_collapse.mp member with ⟨⟨bucket, held, stripped⟩, -, -⟩
    rw [← stripped, get?_erase] at labelled
    split at labelled
    · cases labelled
    · rename_i other
      rcases named_of_mem_reduced held labelled with grouped | ⟨bound, -⟩
      · exact .inl grouped
      · exact absurd bound other
  · rw [same] at member
    rcases named_of_mem_reduced member labelled with grouped | ⟨bound, histogram, some'⟩
    · exact .inl grouped
    · exact .inr ⟨bound, plain, some', histogram⟩

end Members

/-- What is read off buckets stands in the order of labels. -/
theorem ordered_collapse (curves : List (Curve V)) (query : BucketQuery V) :
    ((collapse curves query).1.map (·.labels)).Pairwise fun a b => compare a b = .lt :=
  (List.pairwise_map.mpr (byGroup curves).sorted).sublist (labels_collapse_sublist curves query)

namespace Checked

variable {patterns : PatternEngine} {request : Request V} {settings : EngineSettings}
  {plan : Plan V}

theorem size_le (checked : Checked patterns request settings plan) :
    plan.grid.size ≤ settings.maxPoints := by
  have within := checked.grid
  rw [gridWithin] at within
  rcases bind_eq_ok_iff.mp within with ⟨grid, -, rest⟩
  split at rest
  · cases rest
  · rename_i few
    cases rest
    exact Nat.not_lt.mp few

theorem mem_groupBy (checked : Checked patterns request settings plan) {name : String} :
    name ∈ plan.groupBy ↔ name ∈ request.groupBy.map Text.trim := by
  have names := checked.groupBy
  rw [groupNames] at names
  split at names
  · cases names
  · rw [← Except.ok.inj names, List.mem_eraseDups]

end Checked

end Plan

namespace Engine

variable [Scalar V]

theorem query_shaped [Std.TransCmp (Scalar.compareTotal : V → V → Ordering)] {engine : Engine V}
    {request : Request V} {schedule : Schedule} {curves : List (Curve V)}
    (answered : (engine.query request schedule).2 = .ok curves) :
    ∃ plan, engine.plan request = .ok plan ∧
      (Answer.success curves).Shaped plan.grid engine.settings.maxPoints (fun name =>
        name ∈ request.groupBy.map Text.trim ∨
          name = boundLabel ∧ ¬ plan.ReadsBuckets ∧ plan.select engine.store ≠ [] ∧
            ∀ series ∈ plan.select engine.store, series.type = .histogram) ∧
      (plan.ReadsBuckets →
        (∀ curve ∈ curves, curve.labels.get? boundLabel = none) ∧
        (curves.map (·.labels)).Pairwise fun a b => compare a b = .lt) ∧
      (¬ plan.ReadsBuckets →
        (curves.map (·.labels)).Pairwise fun a b => Labels.compareByBound V a b ≠ .gt) := by
  cases planned : engine.plan request with
  | error failure =>
      rw [query, planned] at answered
      cases answered
  | ok plan =>
      have checked := Plan.ofRequest_eq_ok_iff.mp planned
      rcases answered_of_query_eq_ok planned answered with ⟨type, uniform, accepted, rfl⟩
      have types := Plan.types_select_iff.mpr uniform
      refine ⟨plan, rfl, (Plan.answer_onGrid accepted).shaped checked.size_le ?_, ?_⟩
      · intro curve member name labelled
        rcases Plan.named_of_mem_answer accepted member labelled with
          grouped | ⟨bound, plain, some', rfl⟩
        · exact .inl (checked.mem_groupBy.mp grouped)
        · refine .inr ⟨bound, plain, ?_, types⟩
          rcases List.exists_mem_of_ne_nil _ some' with ⟨source, held⟩
          rw [Plan.select_eq]
          exact List.ne_nil_of_mem (List.mem_map_of_mem (mem_arrivals.mp held))
      · rcases Plan.answer_cases accepted with ⟨query, -, reads, same⟩ | ⟨plain, same⟩
        · rw [same]
          exact ⟨fun _ => ⟨(Plan.collapse_collapsed _ query).unbounded,
            Plan.ordered_collapse _ query⟩, fun plain => absurd reads plain⟩
        · rw [same]
          refine ⟨fun reads => absurd reads plain, fun _ => ?_⟩
          exact (plan.ordered_reduced type _ schedule.listing).imp Labels.Precedes.ne_gt

/-- One histogram: a bound spelt in two ways, one that is no number, and a step without samples. -/
def spelt : Store Float :=
  let bucket (bound : String) : SeriesKey := ⟨"latency", .ofList [("host", "a"), ("le", bound)]⟩
  ((Store.empty 10).insertAll [
    ⟨bucket "1.0", .histogram, .delta, 0, 4⟩, ⟨bucket "1", .histogram, .delta, 120000, 6⟩,
    ⟨bucket "slow", .histogram, .delta, 0, 1⟩, ⟨bucket "+Inf", .histogram, .delta, 0, 9⟩]).1

def speltRequest : Request Float := (Request.plain "latency" 0 170000 60).grouped " host "

def speltPlan : Plan Float where
  metric := "latency"
  grid := ⟨0, 170000, 60000, Grid.minute_pos, by decide⟩
  lookback := 300000
  fetchStart := -300000
  timeReducer := .sum
  spaceReducer := .sum
  filter := .all
  groupBy := ["host"]
  threshold := none
  timeout := .ofSeconds 30

theorem query_shaped_spelt :
    ∃ curves, ((withWorkers 4 spelt).query speltRequest).2 = .ok curves ∧ curves ≠ [] ∧
      (withWorkers 4 spelt).plan speltRequest = .ok speltPlan ∧ ¬ speltPlan.ReadsBuckets ∧
      (Answer.success curves).Shaped speltPlan.grid 11000 (fun name =>
        name ∈ ["host"] ∨ name = boundLabel ∧ ¬ speltPlan.ReadsBuckets ∧
          speltPlan.select spelt ≠ [] ∧
            ∀ series ∈ speltPlan.select spelt, series.type = .histogram) ∧
      (curves.map (·.labels)).Pairwise fun a b => Labels.compareByBound Float a b ≠ .gt := by
  have planned : (withWorkers 4 spelt).plan speltRequest = .ok speltPlan := rfl
  have uniform : ∀ series ∈ speltPlan.sources spelt, series.type = .histogram := by decide +kernel
  have plain : ¬ speltPlan.ReadsBuckets := by
    rintro (asked | ⟨percent, asked⟩)
    · cases asked
    · cases asked
  have answered := query_eq_answer planned uniform speltPlan.checkType_histogram {}
  have shown : ∃ member ∈ speltPlan.sources spelt, speltPlan.points member ≠ [] := by
    decide +kernel
  rcases query_shaped answered with ⟨plan, same, shaped, -, ordered⟩
  obtain rfl : speltPlan = plan := Except.ok.inj (planned.symm.trans same)
  rcases shown with ⟨member, held, some'⟩
  have arrived : member ∈ (withWorkers 4 spelt).arrivals speltPlan {} := mem_arrivals.mpr held
  rcases ((speltPlan.reduced_grouped _ .histogram _).groups _).mpr ⟨member, arrived, rfl, some'⟩
    with ⟨curve, present, -⟩
  exact ⟨_, answered, List.ne_nil_of_mem present, planned, plain, shaped, ordered plain⟩

end Engine

end SeriesQuery
