import SeriesQuery.Proofs.Bucket
import SeriesQuery.Proofs.Engine.Groups
/-!
Queries over histograms. Series are first reduced bucket by bucket, then thresholds and percentiles
are read off the buckets that a group has at a step. Main statement: the answer is the reduction
bucket by bucket, or what is read off it step by step.
-/
namespace SeriesQuery

open SortedMap

variable {V : Type} [Scalar V]

namespace Plan

/-- How counts of one bucket are put together: they are added up where observations are counted. -/
def bucketReducer : SpaceReducer → SpaceReducer
  | .sum | .count | .percentile _ => .sum
  | reducer => reducer

/-- The labels of a bucket: the projection of its series and the text of its bound. -/
def bucketKey (plan : Plan V) (labels : Labels) : Labels :=
  (labels.project plan.groupBy).withBound (labels.get? boundLabel)

/-- The buckets of a group at a step, one for each curve with a bound and a count there. -/
def bucketsAt (perBucket : List (Curve V)) (labels : Labels) (boundary : Int) :
    List (Bucket V) :=
  (perBucket.filter fun curve => curve.labels.erase boundLabel = labels).filterMap
    (Bucket.at? boundary)

/--
Curves that read something off the buckets of each group, step by step. Steps without an answer are
left out, and so are groups without an answer at any step.
-/
structure Collapsed (perBucket : List (Curve V)) (read : List (Bucket V) → Option V)
    (curves : List (Curve V)) : Prop where
  distinct : (curves.map (·.labels)).Nodup
  unbounded : ∀ curve ∈ curves, curve.labels.get? boundLabel = none
  groups : ∀ labels, (∃ curve ∈ curves, curve.labels = labels) ↔
    ∃ boundary, (read (Bucket.prepare (bucketsAt perBucket labels boundary))).isSome
  value : ∀ curve ∈ curves, ∀ boundary, curve.points.get? boundary =
    read (Bucket.prepare (bucketsAt perBucket curve.labels boundary))

omit [Scalar V] in
theorem get?_byGroup (curves : List (Curve V)) (labels : Labels) :
    (byGroup curves).get? labels =
      unlessNil (curves.filter fun curve => curve.labels.erase boundLabel = labels) := by
  rw [byGroup]
  rw [get?_foldl_append (fun curve : Curve V => curve.labels.erase boundLabel)
    (fun curve => curve) (fun _ _ => rfl), List.map_id']

/-- A group of curves is collapsed where that leaves it any point. -/
theorem mem_collapse {curves : List (Curve V)} {query : BucketQuery V} {group : Curve V} :
    group ∈ (collapse curves query).1 ↔
      (∃ curve ∈ curves, curve.labels.erase boundLabel = group.labels) ∧
        (Bucket.evaluateGroup group.labels
          (curves.filter fun curve => curve.labels.erase boundLabel = group.labels) query).1 =
            group ∧
        group.points.isEmpty = false := by
  have present (labels : Labels) : (∃ curve ∈ curves, curve.labels.erase boundLabel = labels) ↔
      curves.filter (fun curve => curve.labels.erase boundLabel = labels) ≠ [] := by
    rw [Ne, List.filter_eq_nil_iff]
    simp
  rw [present]
  rw [collapse]
  simp only [List.map_map, List.mem_filter, List.mem_map, Bool.not_eq_true']
  constructor
  · intro parts
    rcases parts with ⟨⟨⟨labels, members⟩, held, rfl⟩, filled⟩
    have found := get?_eq_some_iff.mpr held
    rw [get?_byGroup, unlessNil_eq_some_iff] at found
    rcases found with ⟨rfl, some'⟩
    exact ⟨some', rfl, filled⟩
  · intro parts
    rcases parts with ⟨some', same, filled⟩
    have found := (get?_byGroup curves group.labels).trans (unlessNil_eq_some_iff.mpr ⟨rfl, some'⟩)
    exact ⟨⟨_, get?_eq_some_iff.mp found, same⟩, filled⟩

theorem get?_evaluateGroup_filter (curves : List (Curve V)) (query : BucketQuery V)
    (labels : Labels) (boundary : Int) :
    (Bucket.evaluateGroup labels (curves.filter fun curve =>
      curve.labels.erase boundLabel = labels) query).1.points.get? boundary =
        Bucket.answer? (Bucket.prepare (bucketsAt curves labels boundary)) query :=
  Bucket.get?_evaluateGroup _ _ _ _

/-- The labels of collapsed curves are labels of groups, in the order of the groups. -/
theorem labels_collapse_sublist (curves : List (Curve V)) (query : BucketQuery V) :
    ((collapse curves query).1.map (·.labels)).Sublist (byGroup curves).keys := by
  have labels : ((byGroup curves).entries.map fun group =>
      (Bucket.evaluateGroup group.1 group.2 query).1).map (·.labels) = (byGroup curves).keys := by
    simp [SortedMap.keys, Bucket.evaluateGroup]
  rw [collapse]
  simp only [List.map_map]
  exact labels ▸ List.filter_sublist.map _

theorem collapse_collapsed (curves : List (Curve V)) (query : BucketQuery V) :
    Collapsed curves (Bucket.answer? · query) (collapse curves query).1 where
  distinct := (labels_collapse_sublist curves query).nodup (keys_nodup (byGroup curves))
  unbounded := by
    intro group member
    rcases mem_collapse.mp member with ⟨⟨curve, -, same⟩, -⟩
    rw [← same, get?_erase, if_pos rfl]
  groups := by
    intro labels
    constructor
    · intro parts
      rcases parts with ⟨group, member, rfl⟩
      rcases mem_collapse.mp member with ⟨-, same, filled⟩
      rcases isEmpty_eq_false_iff.mp filled with ⟨boundary, there⟩
      rw [← congrArg Curve.points same, get?_evaluateGroup_filter] at there
      exact ⟨boundary, there⟩
    · intro parts
      rcases parts with ⟨boundary, answered⟩
      refine ⟨(Bucket.evaluateGroup labels (curves.filter fun curve =>
        curve.labels.erase boundLabel = labels) query).1, mem_collapse.mpr ⟨?_, rfl, ?_⟩, rfl⟩
      · apply Classical.byContradiction
        intro absent
        have nothing : bucketsAt curves labels boundary = [] := by
          rw [bucketsAt]
          rw [List.filter_eq_nil_iff.mpr]
          · rfl
          · intro curve held same
            exact absent ⟨curve, held, of_decide_eq_true same⟩
        rw [nothing, Bucket.answer?_prepare_nil] at answered
        cases answered
      · exact isEmpty_eq_false_iff.mpr ⟨boundary, by rwa [get?_evaluateGroup_filter]⟩
  value := by
    intro group member boundary
    rcases mem_collapse.mp member with ⟨-, same, -⟩
    rw [← congrArg Curve.points same, get?_evaluateGroup_filter]

theorem groupReducer_histogram (reducer : SpaceReducer) :
    groupReducer reducer .histogram = bucketReducer reducer := by
  cases reducer <;> rfl

omit [Scalar V] in
theorem bucketKey_eq (plan : Plan V) :
    (fun labels : Labels => labels.groupKey plan.groupBy true) = plan.bucketKey := by
  funext labels
  exact Labels.groupKey_true labels plan.groupBy

theorem answer_of_none {plan : Plan V} (nothing : plan.bucketQuery? = none)
    (series : List (Series V)) (listing : Labels → Nat) :
    (plan.answer .histogram series listing).1 = plan.reduced .histogram series listing := by
  simp [answer, nothing]

theorem answer_of_some {plan : Plan V} {query : BucketQuery V}
    (asked : plan.bucketQuery? = some query) (series : List (Series V)) (listing : Labels → Nat) :
    (plan.answer .histogram series listing).1 =
      (collapse (plan.reduced .histogram series listing) query).1 := by
  simp [answer, asked]

theorem checkType_histogram (plan : Plan V) : plan.checkType .histogram = .ok () := rfl

end Plan

namespace Engine

theorem query_bucketed {engine : Engine V} {request : Request V} {plan : Plan V}
    (reached : engine.store.Reached) (planned : engine.plan request = .ok plan)
    (uniform : ∀ series ∈ plan.sources engine.store, series.type = .histogram)
    (schedule : Schedule) :
    (plan.sources engine.store).Pairwise (fun a b => compare a.key b.key = .lt) ∧
    (engine.arrivals plan schedule).Perm (plan.sources engine.store) ∧
    (engine.settings.workers = 1 →
      engine.arrivals plan schedule = plan.sources engine.store) ∧
    (∀ a b : Labels, plan.bucketKey a = plan.bucketKey b ↔
      a.project plan.groupBy = b.project plan.groupBy ∧ a.get? boundLabel = b.get? boundLabel) ∧
    ∃ perBucket,
      plan.Grouped (engine.arrivals plan schedule) plan.bucketKey
        (Plan.bucketReducer plan.spaceReducer) perBucket ∧
      (plan.threshold = none → (∀ percent, plan.spaceReducer ≠ .percentile percent) →
        (engine.query request schedule).2 = .ok perBucket) ∧
      (∀ threshold, plan.threshold = some threshold →
        ∃ curves, (engine.query request schedule).2 = .ok curves ∧
          Plan.Collapsed perBucket (Bucket.evaluateThreshold? · threshold) curves) ∧
      (∀ percent, plan.threshold = none → plan.spaceReducer = .percentile percent →
        ∃ curves, (engine.query request schedule).2 = .ok curves ∧
          Plan.Collapsed perBucket (Bucket.quantile? · (SpaceReducer.percentOf percent))
            curves) := by
  have answered := query_eq_answer planned uniform plan.checkType_histogram schedule
  have grouped :=
    plan.reduced_grouped (engine.arrivals plan schedule) .histogram schedule.listing
  rw [Plan.groupReducer_histogram] at grouped
  have keys : (fun labels : Labels =>
      labels.groupKey plan.groupBy (MetricType.histogram = .histogram)) = plan.bucketKey :=
    plan.bucketKey_eq
  rw [keys] at grouped
  refine ⟨plan.sorted_sources reached, arrivals_perm, arrivals_of_one, ?_, _, grouped, ?_, ?_, ?_⟩
  · intro a b
    rw [← plan.bucketKey_eq]
    exact Labels.groupKey_true_eq_iff
  · intro noThreshold plain
    have nothing : plan.bucketQuery? = none := by
      cases reducer : plan.spaceReducer with
      | percentile percent => exact absurd reducer (plain percent)
      | _ => simp [Plan.bucketQuery?, noThreshold, reducer, SpaceReducer.quantile?]
    rw [answered, Plan.answer_of_none nothing]
  · intro threshold asked
    have query : plan.bucketQuery? = some (.threshold threshold) := by
      simp [Plan.bucketQuery?, asked]
    refine ⟨_, answered, ?_⟩
    rw [Plan.answer_of_some query]
    exact Plan.collapse_collapsed _ (.threshold threshold)
  · intro percent noThreshold asked
    have query : plan.bucketQuery? = some (.quantile (SpaceReducer.percentOf percent)) := by
      simp [Plan.bucketQuery?, noThreshold, asked, SpaceReducer.quantile?]
    refine ⟨_, answered, ?_⟩
    rw [Plan.answer_of_some query]
    exact Plan.collapse_collapsed _ (.quantile (SpaceReducer.percentOf percent))

/-- One histogram: two bounds, one of them unread, and a bucket missing at the second step. -/
def latencies : Store Float :=
  let bucket (bound : String) : SeriesKey := ⟨"latency", .ofList [("host", "a"), ("le", bound)]⟩
  ((Store.empty 10).insertAll [
    ⟨bucket "100", .histogram, .delta, 0, 4⟩, ⟨bucket "+Inf", .histogram, .delta, 0, 6⟩,
    ⟨bucket "100", .histogram, .delta, 60000, 1⟩, ⟨bucket "slow", .histogram, .delta, 0, 9⟩]).1

def latencyRequest : Request Float :=
  ((Request.plain "latency" 0 120000 60).grouped "host").against ⟨50, .atMost⟩

def latencyPlan : Plan Float where
  metric := "latency"
  grid := ⟨0, 120000, 60000, Grid.minute_pos, by decide⟩
  lookback := 300000
  fetchStart := -300000
  timeReducer := .sum
  spaceReducer := .sum
  filter := .all
  groupBy := ["host"]
  threshold := some ⟨50, .atMost⟩
  timeout := .ofSeconds 30

theorem query_bucketed_latencies :
    latencies.Reached ∧ (withWorkers 1 latencies).plan latencyRequest = .ok latencyPlan ∧
    (∀ series ∈ latencyPlan.sources latencies, series.type = .histogram) ∧
    ∃ perBucket curves, ((withWorkers 1 latencies).query latencyRequest).2 = .ok curves ∧
      latencyPlan.Grouped (latencyPlan.sources latencies) latencyPlan.bucketKey .sum perBucket ∧
      Plan.Collapsed perBucket (Bucket.evaluateThreshold? · ⟨50, .atMost⟩) curves := by
  have reached : latencies.Reached := (Store.Reached.empty 10).insertAll _
  have planned : (withWorkers 1 latencies).plan latencyRequest = .ok latencyPlan := rfl
  have uniform : ∀ series ∈ latencyPlan.sources latencies, series.type = .histogram := by
    decide +kernel
  rcases query_bucketed reached planned uniform {} with
    ⟨-, -, inOrder, -, perBucket, grouped, -, thresholds, -⟩
  rw [inOrder rfl] at grouped
  rcases thresholds ⟨50, .atMost⟩ rfl with ⟨curves, answered, collapsed⟩
  exact ⟨reached, planned, uniform, perBucket, curves, answered, grouped, collapsed⟩

end Engine

end SeriesQuery
