import Mathlib.Data.List.Basic
import SeriesQuery.Proofs.Engine.Schedules
/-!
One request over two ranges of time, one inside the other. Main statement: at every step of the
inner range both answers show the same values, provided that running totals which were seen before
the inner range are still seen in the lookback of its plan.
-/
namespace SeriesQuery

open SortedMap

variable {V : Type}

/-- Where a later element passes a test that an earlier one passes, the last one passes it. -/
theorem getLast?_filter_upward {α : Type} {list : List α} {before : α → α → Prop} {test : α → Bool}
    (sorted : list.Pairwise before) (upward : ∀ a b, before a b → test a → test b)
    (passed : ∃ element ∈ list, test element) :
    (list.filter test).getLast? = list.getLast? := by
  rcases passed with ⟨element, member, passes⟩
  rcases List.eq_nil_or_concat list with rfl | ⟨init, last, rfl⟩
  · cases member
  · rw [List.concat_eq_append] at sorted member ⊢
    have final : test last = true := by
      rcases List.mem_append.mp member with early | late
      · have less := (List.pairwise_append.mp sorted).2.2 element early last (by simp)
        exact upward element last less passes
      · rw [List.mem_singleton] at late
        exact late ▸ passes
    simp [List.filter_append, final]

namespace Series

/-- The value before an instant does not depend on where a window begins, if it begins before it. -/
theorem valueBefore?_window {samples : List (Int × V)}
    (sorted : samples.Pairwise fun a b => compare a.1 b.1 = .lt)
    {start later stop earlierStop instant : Int} (starts : start ≤ later) (early : instant < stop)
    (early' : instant < earlierStop)
    (seen : (∃ sample ∈ samples, start ≤ sample.1 ∧ sample.1 < instant) →
      ∃ sample ∈ samples, later ≤ sample.1 ∧ sample.1 < instant) :
    valueBefore? (samples.filter fun sample => start ≤ sample.1 ∧ sample.1 < stop) instant =
      valueBefore? (samples.filter fun sample => later ≤ sample.1 ∧ sample.1 < earlierStop)
        instant := by
  have wide : (samples.filter fun sample => start ≤ sample.1 ∧ sample.1 < stop).filter
      (fun sample => sample.1 < instant) =
        samples.filter fun sample => start ≤ sample.1 ∧ sample.1 < instant := by
    rw [List.filter_filter]
    apply List.filter_congr
    intro sample _
    grind
  have narrow : (samples.filter fun sample => later ≤ sample.1 ∧ sample.1 < earlierStop).filter
      (fun sample => sample.1 < instant) =
        (samples.filter fun sample => start ≤ sample.1 ∧ sample.1 < instant).filter
          fun sample => later ≤ sample.1 := by
    rw [List.filter_filter, List.filter_filter]
    apply List.filter_congr
    intro sample _
    grind
  unfold valueBefore?
  rw [wide, narrow]
  by_cases some' : ∃ sample ∈ samples, start ≤ sample.1 ∧ sample.1 < instant
  · rcases seen some' with ⟨sample, member, after, before⟩
    rw [getLast?_filter_upward (sorted.filter _)]
    · intro a b less from'
      have := Int.compare_eq_lt.mp less
      simp only [decide_eq_true_eq] at from' ⊢
      omega
    · refine ⟨sample, List.mem_filter.mpr ⟨member, ?_⟩, decide_eq_true after⟩
      exact decide_eq_true ⟨by omega, before⟩
  · have nothing : samples.filter (fun sample => start ≤ sample.1 ∧ sample.1 < instant) = [] := by
      apply List.filter_eq_nil_iff.mpr
      intro sample member inside
      exact some' ⟨sample, member, of_decide_eq_true inside⟩
    rw [nothing]
    rfl

end Series

namespace Plan

/-- A grid inside the grid of a plan, whose last step the inner range does not cut shorter. -/
structure Contains (plan : Plan V) (grid : Grid) (fetchStart : Int) : Prop where
  step : grid.step = plan.grid.step
  outerAligned : plan.grid.step ∣ plan.grid.start
  aligned : grid.step ∣ grid.start
  starts : plan.grid.start ≤ grid.start
  stops : grid.stop ≤ plan.grid.stop
  whole : grid.step ∣ grid.stop ∨ grid.stop = plan.grid.stop
  fetches : plan.fetchStart ≤ fetchStart
  looksBack : fetchStart ≤ grid.start
  outerLooksBack : plan.fetchStart ≤ plan.grid.start

/--
Whether a series, if it is a running total, is seen shortly before the inner grid where the plan
sees it before that grid at all.
-/
def Anchored (plan : Plan V) (grid : Grid) (fetchStart : Int) (series : Series V) : Prop :=
  series.isRunningTotal = true →
    (∃ sample ∈ series.samples.entries, plan.fetchStart ≤ sample.1 ∧ sample.1 < grid.start) →
      ∃ sample ∈ series.samples.entries, fetchStart ≤ sample.1 ∧ sample.1 < grid.start

/-- Points are told from their samples: those of some instants come from the samples there. -/
theorem filter_points [Scalar V] (plan : Plan V) (series : Series V) (test : Int → Bool) :
    (plan.points series).filter (fun point => test point.1) =
      series.samples.entries.filterMap fun sample =>
        if plan.fetchStart ≤ sample.1 ∧ sample.1 < plan.grid.stop ∧ plan.grid.start ≤ sample.1 ∧
            test sample.1 = true then
          Series.contribution? series.type series.temporality (plan.window series) sample
        else none := by
  have kept (sample : Int × V) :
      (Series.contribution? series.type series.temporality (plan.window series) sample).filter
        (fun point => test point.1) =
      if test sample.1 = true then
        Series.contribution? series.type series.temporality (plan.window series) sample
      else none := by
    cases counted : Series.contribution? series.type series.temporality (plan.window series)
      sample with
    | none => simp
    | some point =>
        rw [← Series.instant_of_contribution? counted]
        rfl
  rw [points, List.filter_filterMap, List.filterMap_filter]
  simp only [kept]
  rw [window, List.filterMap_filter]
  congr 1
  funext sample
  by_cases fetched : plan.fetchStart ≤ sample.1 ∧ sample.1 < plan.grid.stop
  · by_cases late : plan.grid.start ≤ sample.1 <;> simp [fetched, late]
  · have missed : ¬ (plan.fetchStart ≤ sample.1 ∧ sample.1 < plan.grid.stop ∧
        plan.grid.start ≤ sample.1 ∧ test sample.1 = true) :=
      fun parts => fetched ⟨parts.1, parts.2.1⟩
    rw [if_neg missed, if_neg (by simpa using fetched)]

namespace Contains

variable {plan : Plan V} {grid : Grid} {fetchStart : Int}

theorem boundary_mem (inner : plan.Contains grid fetchStart) {boundary : Int}
    (held : boundary ∈ grid.boundaries) : boundary ∈ plan.grid.boundaries := by
  rcases (grid.mem_boundaries).mp held with ⟨multiple, after, before⟩
  have starts := inner.starts
  have stops := inner.stops
  have aligned := inner.aligned
  rw [inner.step] at multiple aligned
  refine (plan.grid.mem_boundaries).mpr ⟨?_, by omega, by omega⟩
  have shift : boundary - plan.grid.start =
      boundary - grid.start + (grid.start - plan.grid.start) := by omega
  rw [shift]
  exact Int.dvd_add multiple (Int.dvd_sub aligned inner.outerAligned)

/-- The samples of a step of the inner grid are the same in both ranges. -/
theorem inside_iff (inner : plan.Contains grid fetchStart) {boundary instant : Int}
    (held : boundary ∈ grid.boundaries) (inStep : grid.inStep boundary instant = true) :
    instant < plan.grid.stop ↔ instant < grid.stop := by
  rcases (grid.mem_boundaries).mp held with ⟨multiple, after, before⟩
  rcases of_decide_eq_true inStep with ⟨from', until'⟩
  constructor
  · intro early
    rcases inner.whole with whole | same
    · have gap : grid.step ∣ grid.stop - boundary := by
        have shift : grid.stop - boundary =
            grid.stop - grid.start - (boundary - grid.start) := by omega
        rw [shift]
        exact Int.dvd_sub (Int.dvd_sub whole inner.aligned) multiple
      have := Int.le_of_dvd (by omega) gap
      omega
    · omega
  · intro early
    have := inner.stops
    omega

variable [Scalar V]

theorem contribution?_eq (inner : plan.Contains grid fetchStart) {series : Series V}
    (anchored : plan.Anchored grid fetchStart series) {sample : Int × V}
    (after : grid.start ≤ sample.1) (before : sample.1 < grid.stop) :
    Series.contribution? series.type series.temporality (plan.window series) sample =
      Series.contribution? series.type series.temporality
        ((plan.during grid fetchStart).window series) sample := by
  have stops := inner.stops
  have fetches := inner.fetches
  cases total : series.isRunningTotal with
  | false =>
      rw [Series.contribution?_of_not_isRunningTotal total,
        Series.contribution?_of_not_isRunningTotal total]
  | true =>
      rw [Series.contribution?_of_isRunningTotal total,
        Series.contribution?_of_isRunningTotal total]
      congr 1
      apply Series.valueBefore?_window series.samples.sorted fetches (by omega) before
      rintro ⟨other, member, from', until'⟩
      by_cases early : other.1 < grid.start
      · rcases anchored total ⟨other, member, from', early⟩ with ⟨anchor, seen, recent, earlier⟩
        exact ⟨anchor, seen, recent, by omega⟩
      · have := inner.looksBack
        exact ⟨other, member, by omega, until'⟩

/-- The points of a step of the inner grid are the same in both ranges. -/
theorem points_eq (inner : plan.Contains grid fetchStart) {series : Series V}
    (anchored : (plan.during grid fetchStart).window series ≠ [] →
      plan.Anchored grid fetchStart series) {boundary : Int} (held : boundary ∈ grid.boundaries) :
    (plan.points series).filter (fun point => grid.inStep boundary point.1) =
      ((plan.during grid fetchStart).points series).filter
        fun point => grid.inStep boundary point.1 := by
  have after := ((grid.mem_boundaries).mp held).2.1
  have starts := inner.starts
  have outer := inner.outerLooksBack
  have looksBack := inner.looksBack
  rw [filter_points, filter_points]
  apply List.filterMap_congr
  intro sample member
  by_cases inStep : grid.inStep boundary sample.1 = true
  · rcases of_decide_eq_true inStep with ⟨from', -⟩
    have ends := inner.inside_iff held inStep
    by_cases inside : sample.1 < grid.stop
    · have fetched : fetchStart ≤ sample.1 := by omega
      have late : grid.start ≤ sample.1 := by omega
      have seen : sample ∈ (plan.during grid fetchStart).window series :=
        List.mem_filter.mpr ⟨member, decide_eq_true ⟨fetched, inside⟩⟩
      have same := inner.contribution?_eq (anchored (List.ne_nil_of_mem seen)) late inside
      rw [if_pos ⟨by omega, ends.mpr inside, by omega, inStep⟩, same]
      exact (if_pos ⟨fetched, inside, late, inStep⟩).symm
    · rw [if_neg fun parts => inside (ends.mp parts.2.1)]
      exact (if_neg fun parts => inside parts.2.1).symm
  · rw [if_neg fun parts => inStep parts.2.2.2, if_neg fun parts => inStep parts.2.2.2]

/-- At a step of the inner grid a series has the same value in both ranges. -/
theorem valueAt?_eq (inner : plan.Contains grid fetchStart) {series : Series V}
    (anchored : (plan.during grid fetchStart).window series ≠ [] →
      plan.Anchored grid fetchStart series) {boundary : Int} (held : boundary ∈ grid.boundaries) :
    plan.valueAt? series boundary = (plan.during grid fetchStart).valueAt? series boundary := by
  have seconds : (grid.stepSeconds : V) = plan.grid.stepSeconds := by
    unfold Grid.stepSeconds
    rw [inner.step]
  have steps : plan.grid.inStep boundary = grid.inStep boundary := by
    unfold Grid.inStep
    rw [inner.step]
  rw [valueAt?, valueAt?, during_grid, during_timeReducer, if_pos (inner.boundary_mem held),
    if_pos held, seconds, steps, inner.points_eq anchored held]

/-- At a step of the inner grid the series of a group have the same values in both ranges, in the
same order if they are handed in alike. -/
theorem values_eq (inner : plan.Contains grid fetchStart) {engine : Engine V}
    (anchored : ∀ series ∈ (plan.during grid fetchStart).sources engine.store,
      plan.Anchored grid fetchStart series)
    {schedule later : Schedule}
    (alike : engine.settings.workers = 1 ∨ schedule.arrival = later.arrival)
    {boundary : Int} (held : boundary ∈ grid.boundaries) (keyOf : Labels → Labels)
    (labels : Labels) :
    ((engine.arrivals plan schedule).filterMap fun member =>
      if keyOf member.key.labels = labels then plan.valueAt? member boundary else none) =
    (engine.arrivals (plan.during grid fetchStart) later).filterMap fun member =>
      if keyOf member.key.labels = labels then
        (plan.during grid fetchStart).valueAt? member boundary else none := by
  rw [filterMap_arrivals, filterMap_arrivals, Schedule.arrive_eq alike]
  · apply List.filterMap_congr
    intro series member
    rcases List.mem_filter.mp member with ⟨stored, asked⟩
    rw [inner.valueAt?_eq _ held]
    intro seen
    apply anchored series
    refine List.mem_filter.mpr ⟨(later.arrive_perm _ _).subset stored, ?_⟩
    rw [during_metric, during_filter, asked]
    simpa using seen
  · intro series unseen
    rw [valueAt?_eq_none unseen, ite_self]
  · intro series unseen
    rw [valueAt?_eq_none unseen, ite_self]

omit [Scalar V] in
theorem mem_sources (inner : plan.Contains grid fetchStart) {store : Store V} {series : Series V}
    (source : series ∈ (plan.during grid fetchStart).sources store) :
    series ∈ plan.sources store := by
  rcases Plan.mem_sources.mp source with ⟨stored, named, accepted, seen⟩
  rcases List.exists_mem_of_ne_nil _ seen with ⟨sample, inside⟩
  rcases List.mem_filter.mp inside with ⟨member, window⟩
  rcases of_decide_eq_true window with ⟨after, before⟩
  have wider : sample ∈ plan.window series := List.mem_filter.mpr ⟨member, decide_eq_true
    ⟨Int.le_trans inner.fetches after, Int.lt_of_lt_of_le before inner.stops⟩⟩
  exact Plan.mem_sources.mpr ⟨stored, named, accepted, List.ne_nil_of_mem wider⟩

theorem shows_answer_iff [Std.TransCmp (Scalar.compareTotal : V → V → Ordering)]
    [Std.LawfulEqCmp (Scalar.compareTotal : V → V → Ordering)]
    (inner : plan.Contains grid fetchStart) {engine : Engine V}
    (anchored : ∀ series ∈ (plan.during grid fetchStart).sources engine.store,
      plan.Anchored grid fetchStart series)
    {type : MetricType} (uniform : ∀ series ∈ plan.sources engine.store, series.type = type)
    {schedule later : Schedule}
    (arrivals : engine.settings.workers = 1 ∨ schedule.arrival = later.arrival)
    (listings : ¬ plan.ReadsBuckets ∨ (plan.during grid fetchStart).Apart engine.store ∨
      schedule.listing = later.listing)
    {boundary : Int} (held : boundary ∈ grid.boundaries) (labels : Labels) (value : V) :
    Curve.Shows (plan.answer type ((engine.arrivals plan schedule).map plan.cut)
      schedule.listing).1 labels boundary value ↔
    Curve.Shows ((plan.during grid fetchStart).answer type
      ((engine.arrivals (plan.during grid fetchStart) later).map (plan.during grid fetchStart).cut)
      later.listing).1 labels boundary value := by
  have handed : (engine.arrivals (plan.during grid fetchStart) later).Perm
      ((plan.during grid fetchStart).sources engine.store) := Engine.arrivals_perm
  have alike := listings.imp_right (Or.imp_left fun apart =>
    apart.groups (fun series source => uniform series (inner.mem_sources source)) handed)
  refine Plan.shows_answer_iff (bucketQuery?_during plan grid fetchStart).symm alike ?_ labels value
  intro labels value
  have values := inner.values_eq anchored arrivals held
    (·.groupKey plan.groupBy (type = .histogram)) labels
  rw [(plan.reduced_grouped _ type _).shows_iff,
    ((plan.during grid fetchStart).reduced_grouped _ type _).shows_iff, values, during_groupBy,
    during_spaceReducer]

end Contains

/-- The plan of a range inside the range of another plan. -/
theorem Checked.contains [Scalar V] {patterns : PatternEngine} {request : Request V}
    {settings : EngineSettings} {wide narrow : Plan V} {start stop : Int}
    (checked : Checked patterns request settings wide)
    (moved : Checked patterns (request.during start stop) settings narrow)
    (starts : wide.grid.start ≤ narrow.grid.start) (stops : narrow.grid.stop ≤ wide.grid.stop)
    (whole : narrow.grid.step ∣ narrow.grid.stop ∨ narrow.grid.stop = wide.grid.stop) :
    wide.Contains narrow.grid narrow.fetchStart := by
  have aligned (instant step : Int) : step ∣ Grid.align instant step :=
    Int.dvd_self_sub_emod
  have lookback := congrArg Plan.lookback (checked.during moved).2
  rw [during_lookback] at lookback
  have positive := checked.lookback_pos
  have fetchStart := checked.fetchStart_eq
  have fetchStart' := moved.fetchStart_eq
  exact {
    step := (checked.during moved).1
    outerAligned := checked.cover.1 ▸ aligned _ _
    aligned := moved.cover.1 ▸ aligned _ _
    starts := starts
    stops := stops
    whole := whole
    fetches := by omega
    looksBack := by omega
    outerLooksBack := by omega }

end Plan

namespace Engine

theorem query_window [Scalar V] [Std.TransCmp (Scalar.compareTotal : V → V → Ordering)]
    [Std.LawfulEqCmp (Scalar.compareTotal : V → V → Ordering)] {engine : Engine V}
    {request : Request V} {start stop : Int} {wide narrow : Plan V}
    (planned : engine.plan request = .ok wide)
    (replanned : engine.plan (request.during start stop) = .ok narrow)
    (starts : wide.grid.start ≤ narrow.grid.start) (stops : narrow.grid.stop ≤ wide.grid.stop)
    (whole : narrow.grid.step ∣ narrow.grid.stop ∨ narrow.grid.stop = wide.grid.stop)
    (anchored : ∀ series ∈ narrow.sources engine.store,
      wide.Anchored narrow.grid narrow.fetchStart series)
    {schedule later : Schedule}
    (arrivals : engine.settings.workers = 1 ∨ schedule.arrival = later.arrival)
    (listings : ¬ wide.ReadsBuckets ∨ narrow.Apart engine.store ∨
      schedule.listing = later.listing)
    {curves : List (Curve V)} (answered : (engine.query request schedule).2 = .ok curves) :
    ∃ others, (engine.query (request.during start stop) later).2 = .ok others ∧
      ∀ labels, ∀ boundary ∈ narrow.grid.boundaries, ∀ value,
        Curve.Shows curves labels boundary value ↔ Curve.Shows others labels boundary value := by
  have checked := Plan.ofRequest_eq_ok_iff.mp planned
  have moved := Plan.ofRequest_eq_ok_iff.mp replanned
  have inner := checked.contains moved starts stops whole
  obtain ⟨grid, fetchStart, rfl⟩ : ∃ grid fetchStart, narrow = wide.during grid fetchStart :=
    ⟨_, _, (checked.during moved).2⟩
  rcases answered_of_query_eq_ok planned answered with ⟨type, uniform, accepted, rfl⟩
  refine ⟨_, query_eq_answer replanned ?_ accepted later, ?_⟩
  · intro series source
    exact uniform series (inner.mem_sources source)
  · intro labels boundary held value
    exact inner.shows_answer_iff anchored uniform arrivals listings held labels value

/-- A counter seen before both ranges, one of increments, and one seen for the first time inside. -/
def visits : Store Float :=
  let host (name : String) : SeriesKey := ⟨"visits", .ofList [("host", name)]⟩
  ((Store.empty 10).insertAll [
    ⟨host "a", .sum, .cumulative, -30000, 5⟩, ⟨host "a", .sum, .cumulative, 0, 7⟩,
    ⟨host "a", .sum, .cumulative, 30000, 3⟩, ⟨host "a", .sum, .cumulative, 60000, 4⟩,
    ⟨host "a", .sum, .cumulative, 90000, 9⟩, ⟨host "b", .sum, .delta, 10000, 2⟩,
    ⟨host "b", .sum, .delta, 70000, 6⟩, ⟨host "c", .sum, .unspecified, 100000, 8⟩]).1

def visitsRequest : Request Float :=
  ((Request.plain "visits" 0 150000 60).overTime .increase).grouped "host"

def visitsPlan : Plan Float where
  metric := "visits"
  grid := ⟨0, 150000, 60000, Grid.minute_pos, by decide⟩
  lookback := 300000
  fetchStart := -300000
  timeReducer := .increase
  spaceReducer := .sum
  filter := .all
  groupBy := ["host"]
  threshold := none
  timeout := .ofSeconds 30

/-- The second step alone. -/
def visitsNarrow : Plan Float :=
  visitsPlan.during ⟨60000, 120000, 60000, Grid.minute_pos, by decide⟩ (-240000)

theorem query_window_visits :
    (withWorkers 1 visits).plan visitsRequest = .ok visitsPlan ∧
    (withWorkers 1 visits).plan (visitsRequest.during 60000 120000) = .ok visitsNarrow ∧
    (∀ series ∈ visitsNarrow.sources visits,
      visitsPlan.Anchored visitsNarrow.grid visitsNarrow.fetchStart series) ∧
    ¬ visitsPlan.ReadsBuckets ∧
    ∀ schedule later : Schedule, ∃ curves others,
      ((withWorkers 1 visits).query visitsRequest schedule).2 = .ok curves ∧
      ((withWorkers 1 visits).query (visitsRequest.during 60000 120000) later).2 = .ok others ∧
      ∀ labels, ∀ boundary ∈ visitsNarrow.grid.boundaries, ∀ value,
        Curve.Shows curves labels boundary value ↔ Curve.Shows others labels boundary value := by
  have planned : (withWorkers 1 visits).plan visitsRequest = .ok visitsPlan := rfl
  have replanned : (withWorkers 1 visits).plan (visitsRequest.during 60000 120000) =
      .ok visitsNarrow := rfl
  have anchored : ∀ series ∈ visitsNarrow.sources visits,
      visitsPlan.Anchored visitsNarrow.grid visitsNarrow.fetchStart series := by
    unfold Plan.Anchored
    decide +kernel
  have uniform : ∀ series ∈ visitsPlan.sources visits, series.type = .sum := by decide +kernel
  have plain : ¬ visitsPlan.ReadsBuckets := by
    rintro (asked | ⟨percent, asked⟩)
    · cases asked
    · cases asked
  refine ⟨planned, replanned, anchored, plain, fun schedule later => ?_⟩
  have answered := query_eq_answer planned uniform rfl schedule
  rcases query_window planned replanned (by decide) (by decide) (by decide) anchored
    (.inl rfl : _ ∨ schedule.arrival = later.arrival) (.inl plain) answered with
    ⟨others, narrowed, same⟩
  exact ⟨_, others, answered, narrowed, same⟩

end Engine

end SeriesQuery
