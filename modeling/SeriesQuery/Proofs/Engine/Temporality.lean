import SeriesQuery.Proofs.Engine.Reordering
import SeriesQuery.Proofs.Totals
/-!
Series that store their amounts and series that store running totals of them. Main statement: where
adding does not round, an answer is the same over either, whichever of the series are stored as
running totals and in whatever order they are handed in, but for the order of groups that tie.
-/
namespace SeriesQuery

open SortedMap

variable {V : Type} [Scalar V]

namespace Plan

/--
A series as it is, or running totals of its amounts. Those begin where the plan looks for a total to
count from: before the grid, but not before the fetch.
-/
def Recast (plan : Plan V) (series other : Series V) : Prop :=
  other = series ∨ ∃ anchor total, plan.fetchStart ≤ anchor ∧ anchor < plan.grid.start ∧
    Series.Accumulated anchor total series other

/-- Stores of the same series, any of them stored as running totals of its amounts in the other. -/
def Recasts (plan : Plan V) (store other : Store V) : Prop :=
  ∀ key, Option.Rel plan.Recast (store.series.get? key) (other.series.get? key)

namespace Recast

variable {plan : Plan V} {series other : Series V}

theorem key_eq (recast : plan.Recast series other) : other.key = series.key := by
  rcases recast with rfl | ⟨_, _, -, -, accumulated⟩
  · rfl
  · exact accumulated.key

theorem type_eq (recast : plan.Recast series other) : other.type = series.type := by
  rcases recast with rfl | ⟨_, _, -, -, accumulated⟩
  · rfl
  · exact accumulated.type

theorem window_ne_nil (recast : plan.Recast series other) (seen : plan.window series ≠ []) :
    plan.window other ≠ [] := by
  rcases recast with rfl | ⟨anchor, total, from', until', accumulated⟩
  · exact seen
  · have before := plan.grid.start_lt_stop
    have begins : (plan.cut other).samples.entries = _ :=
      (accumulated.range from' (Int.lt_trans until' before)).entries
    rw [entries_cut] at begins
    simp [begins]

theorem curve_eq [Scalar.Unrounded V] (recast : plan.Recast series other) :
    plan.curve (plan.cut other) = plan.curve (plan.cut series) := by
  rcases recast with rfl | ⟨anchor, total, from', until', accumulated⟩
  · rfl
  · have seen := accumulated.range from' (Int.lt_trans until' plan.grid.start_lt_stop)
    unfold curve cut
    rw [seen.increments_points, seen.key]

end Recast

/-- The curve of a series, if the plan asks for the series and it has points. -/
def drawn? (plan : Plan V) (series : Series V) : Option (Curve V) :=
  if series.key.metric == plan.metric && plan.filter.accepts series.key.labels then
    Option.guard (fun curve => !curve.points.isEmpty) (plan.curve (plan.cut series))
  else none

theorem filled_select (plan : Plan V) (store : Store V) :
    plan.filled (plan.select store) = store.series.values.filterMap plan.drawn? := by
  have absent (series : Series V) (unseen : plan.window series = []) :
      Option.guard (fun curve => !curve.points.isEmpty) (plan.curve (plan.cut series)) = none := by
    have empty := (plan.isEmpty_curve series).mpr (points_eq_nil unseen)
    simp [Option.guard, empty]
  calc
    plan.filled (plan.select store) =
        (plan.sources store).filterMap (fun series =>
          Option.guard (fun curve => !curve.points.isEmpty) (plan.curve (plan.cut series))) := by
      rw [filled, select_eq, List.map_map, ← List.filterMap_eq_filter, List.filterMap_map]
      rfl
    _ = store.series.values.filterMap plan.drawn? := by
      rw [sources, plan.filterMap_seen _ absent, List.filterMap_filter]
      rfl

namespace Recasts

variable {plan : Plan V} {store other : Store V}

/-- One series is replaced by running totals of its amounts. -/
theorem of_insert {key : SeriesKey} {series running : Series V}
    (found : store.series.get? key = some series) (recast : plan.Recast series running) :
    plan.Recasts store { store with series := store.series.insert key running } := by
  intro other
  simp only [get?_insert]
  by_cases same : other = key
  · rw [if_pos same, same, found]
    exact .some recast
  · rw [if_neg same]
    cases store.series.get? other with
    | none => exact .none
    | some kept => exact .some (.inl rfl)

theorem filled_eq [Scalar.Unrounded V] (recasts : plan.Recasts store other) :
    plan.filled (plan.select store) = plan.filled (plan.select other) := by
  have maps : store.series.filterMap (fun _ => plan.drawn?) =
      other.series.filterMap fun _ => plan.drawn? := by
    apply ext_get?
    intro key
    rw [get?_filterMap, get?_filterMap]
    have related := recasts key
    generalize store.series.get? key = stored, other.series.get? key = recast at related
    cases related with
    | none => rfl
    | some recast =>
        simp only [Option.bind_some, drawn?, recast.key_eq, recast.curve_eq]
  rw [filled_select, filled_select, ← values_filterMap, ← values_filterMap, maps]

theorem exists_mem_sources (recasts : plan.Recasts store other) {series : Series V}
    (source : series ∈ plan.sources store) :
    ∃ recast ∈ plan.sources other, recast.type = series.type := by
  rcases mem_sources.mp source with ⟨⟨key, found⟩, named, accepted, seen⟩
  have related := recasts key
  rw [found] at related
  cases stored : other.series.get? key with
  | none =>
      rw [stored] at related
      cases related
  | some series' =>
      rw [stored] at related
      cases related with
      | some recast =>
          refine ⟨series', mem_sources.mpr ⟨⟨key, stored⟩, ?_, ?_, recast.window_ne_nil seen⟩,
            recast.type_eq⟩
          · rw [recast.key_eq, named]
          · rw [recast.key_eq, accepted]

end Recasts

end Plan

namespace Engine

theorem query_recasts [Scalar.Unrounded V] [Scalar.Regroupable V] [Scalar.Ranked V]
    [Std.TransCmp (Scalar.compareTotal : V → V → Ordering)]
    [Std.LawfulEqCmp (Scalar.compareTotal : V → V → Ordering)] {engine : Engine V}
    {other : Store V} {request : Request V} {plan : Plan V}
    (planned : engine.plan request = .ok plan) (recasts : plan.Recasts engine.store other)
    (schedule : Schedule) {later : Schedule} {curves : List (Curve V)}
    (answered : ({ engine with store := other }.query request later).2 = .ok curves) :
    ∃ others, (engine.query request schedule).2 = .ok others ∧ others.Perm curves ∧
      (plan.ReadsBuckets ∨ plan.Apart engine.store ∨ schedule.listing = later.listing →
        others = curves) := by
  have replanned : { engine with store := other }.plan request = .ok plan := planned
  rcases answered_of_query_eq_ok replanned answered with ⟨type, uniform, accepted, rfl⟩
  have uniform' : ∀ series ∈ plan.sources engine.store, series.type = type := by
    intro series source
    rcases recasts.exists_mem_sources source with ⟨recast, held, same⟩
    exact same.symm.trans (uniform recast held)
  have handed (engine : Engine V) (schedule : Schedule) :
      ((engine.arrivals plan schedule).map plan.cut).Perm (plan.select engine.store) := by
    rw [Plan.select_eq]
    exact arrivals_perm.map _
  -- Over either store the series may be taken by their keys, and those have the same curves.
  have same : (plan.answer type (({ engine with store := other }.arrivals plan later).map plan.cut)
      later.listing).1 = (plan.answer type (plan.select engine.store) later.listing).1 := by
    rw [Plan.answer_perm (handed { engine with store := other } later),
      Plan.answer_eq_of_filled recasts.filled_eq]
  have unordered := Plan.answer_unordered accepted (handed engine schedule) later.listing
    schedule.listing
  refine ⟨_, query_eq_answer planned uniform' accepted schedule, ?_, fun settled => ?_⟩
  · rw [same]
    exact unordered.1
  · rw [same]
    refine unordered.2 (settled.imp_right (Or.imp (fun apart => ?_) Eq.symm))
    rw [Plan.select_eq]
    exact apart.groups uniform' (.refl _)

def waitKey (bound : String) : SeriesKey := ⟨"wait", .ofList [("host", "a"), ("le", bound)]⟩

/-- Two buckets that store amounts. -/
def waits : Store Exact :=
  ((Store.empty 10).insertAll [
    ⟨waitKey "100", .histogram, .delta, 0, .finite 4⟩,
    ⟨waitKey "100", .histogram, .delta, 60000, .finite 1⟩,
    ⟨waitKey "+Inf", .histogram, .delta, 0, .finite 6⟩]).1

/-- The first bucket as running totals. -/
def waitTotals : Series Exact :=
  ⟨waitKey "100", .histogram, .cumulative,
    .ofList [(-30000, .finite 7), (0, .finite 11), (60000, .finite 12)]⟩

def mixedWaits : Store Exact :=
  { waits with series := waits.series.insert (waitKey "100") waitTotals }

def waitRequest : Request Exact :=
  ((Request.plain "wait" 0 180000 60).grouped "host").against ⟨.finite 50, .atMost⟩

def waitPlan : Plan Exact where
  metric := "wait"
  grid := ⟨0, 180000, 60000, Grid.minute_pos, by decide⟩
  lookback := 300000
  fetchStart := -300000
  timeReducer := .sum
  spaceReducer := .sum
  filter := .all
  groupBy := ["host"]
  threshold := some ⟨.finite 50, .atMost⟩
  timeout := .ofSeconds 30

theorem query_recasts_waits :
    (withWorkers 4 waits).plan waitRequest = .ok waitPlan ∧
    waitPlan.Recasts waits mixedWaits ∧ waitPlan.ReadsBuckets ∧
    ∀ schedule later : Schedule, ∃ curves,
      ((withWorkers 4 mixedWaits).query waitRequest later).2 = .ok curves ∧
      ((withWorkers 4 waits).query waitRequest schedule).2 = .ok curves := by
  have planned : (withWorkers 4 waits).plan waitRequest = .ok waitPlan := rfl
  have accumulated : Series.Accumulated (-30000) (.finite 7)
      ⟨waitKey "100", .histogram, .delta, .ofList [(0, .finite 4), (60000, .finite 1)]⟩
      waitTotals := {
    key := rfl
    type := rfl
    monotonic := rfl
    delta := rfl
    notDelta := by decide
    entries := by decide +kernel
    finite := rfl
    counts := by
      unfold Series.Counts
      decide }
  have found : waits.series.get? (waitKey "100") = some
      ⟨waitKey "100", .histogram, .delta, .ofList [(0, .finite 4), (60000, .finite 1)]⟩ := by
    cbv
  have recasts : waitPlan.Recasts waits mixedWaits :=
    .of_insert found (.inr ⟨_, _, by decide, by decide, accumulated⟩)
  have uniform : ∀ series ∈ waitPlan.sources mixedWaits, series.type = .histogram := by
    decide +kernel
  have replanned : (withWorkers 4 mixedWaits).plan waitRequest = .ok waitPlan := rfl
  have reads : waitPlan.ReadsBuckets := .inl rfl
  refine ⟨planned, recasts, reads, fun schedule later => ?_⟩
  have answered : ((withWorkers 4 mixedWaits).query waitRequest later).2 = .ok _ :=
    query_eq_answer replanned uniform rfl later
  rcases query_recasts planned recasts schedule answered with ⟨others, again, -, same⟩
  exact ⟨_, answered, same (.inl reads) ▸ again⟩

end Engine

end SeriesQuery
