import SeriesQuery.Engine
import SeriesQuery.Proofs.Curve
import SeriesQuery.Proofs.Grouping
import SeriesQuery.Proofs.Increments
import SeriesQuery.Proofs.Labels
import SeriesQuery.Proofs.Schedule
import SeriesQuery.Proofs.Store.Fetch
/-!
What a plan means over a store, said of stored series and single steps: which series it looks at,
which points they have on the grid, and what a group of series has at a step. Main statement: the
curves that series are reduced to, in whatever order they come, are the groups said to be there.
-/
namespace SeriesQuery

open SortedMap

variable {V : Type}

namespace Plan

/-- The samples of a series that a plan looks at. -/
def window (plan : Plan V) (series : Series V) : List (Int × V) :=
  series.samples.entries.filter fun sample =>
    plan.fetchStart ≤ sample.1 ∧ sample.1 < plan.grid.stop

/-- The stored series that a plan looks at, in the order of their keys. -/
def sources (plan : Plan V) (store : Store V) : List (Series V) :=
  store.series.values.filter fun series =>
    series.key.metric == plan.metric && plan.filter.accepts series.key.labels &&
      !(plan.window series).isEmpty

/-- A series cut to the samples that a plan looks at. -/
def cut (plan : Plan V) (series : Series V) : Series V :=
  series.range plan.fetchStart plan.grid.stop

variable [Scalar V]

/-- The points of a series on the grid, in the order of time. -/
def points (plan : Plan V) (series : Series V) : List (Int × V) :=
  ((plan.window series).filter fun sample => plan.grid.start ≤ sample.1).filterMap
    (Series.contribution? series.type series.temporality (plan.window series))

/-- The values that a series has in the step of a boundary, reduced over time. -/
def valueAt? (plan : Plan V) (series : Series V) (boundary : Int) : Option V :=
  if boundary ∈ plan.grid.boundaries then
    plan.timeReducer.reduce
      (((plan.points series).filter fun point => plan.grid.inStep boundary point.1).map (·.2))
      plan.grid.stepSeconds
  else none

/--
Curves that stand for the groups of some series. Series are grouped by a function of their labels;
a group is there if one of its series has a point, and at a step it has the reduction of the values
of its series there, in the order of the series.
-/
structure Grouped (plan : Plan V) (series : List (Series V)) (keyOf : Labels → Labels)
    (reducer : SpaceReducer) (curves : List (Curve V)) : Prop where
  distinct : (curves.map (·.labels)).Nodup
  groups : ∀ labels, (∃ curve ∈ curves, curve.labels = labels) ↔
    ∃ member ∈ series, keyOf member.key.labels = labels ∧ plan.points member ≠ []
  value : ∀ curve ∈ curves, ∀ boundary, curve.points.get? boundary =
    reducer.reduce (series.filterMap fun member =>
      if keyOf member.key.labels = curve.labels then plan.valueAt? member boundary else none)

/-! Series -/

omit [Scalar V] in
theorem entries_cut (plan : Plan V) (series : Series V) :
    (plan.cut series).samples.entries = plan.window series := by
  simp [cut, Series.entries_range, window]

omit [Scalar V] in
theorem mem_sources {plan : Plan V} {store : Store V} {series : Series V} :
    series ∈ plan.sources store ↔ (∃ key, store.series.get? key = some series) ∧
      series.key.metric = plan.metric ∧ plan.filter.accepts series.key.labels = true ∧
      plan.window series ≠ [] := by
  have stored : series ∈ store.series.values ↔ ∃ key, store.series.get? key = some series := by
    simp [SortedMap.values, get?_eq_some_iff]
  rw [sources, List.mem_filter, stored]
  simp [and_assoc]

theorem sorted_sources (plan : Plan V) {store : Store V} (reached : store.Reached) :
    (plan.sources store).Pairwise fun a b => compare a.key b.key = .lt :=
  reached.keyed.sorted_values.filter _

omit [Scalar V] in
theorem fetch_eq_select (plan : Plan V) (store : Store V) :
    plan.fetch store = .ok (plan.select store) :=
  store.fetch_eq_select _ _ _ _

omit [Scalar V] in
/-- A plan selects the series it looks at, cut to the samples it looks at. -/
theorem select_eq (plan : Plan V) (store : Store V) :
    plan.select store = (plan.sources store).map plan.cut := by
  change ((store.series.values.filter fun series =>
    series.key.metric == plan.metric && plan.filter.accepts series.key.labels).map plan.cut).filter
      (fun series => !series.samples.isEmpty) = _
  rw [sources, List.filter_map, List.filter_filter]
  congr 1
  apply List.filter_congr
  intro series _
  simp only [Function.comp, SortedMap.isEmpty, entries_cut]
  cases (plan.window series).isEmpty <;> simp

theorem on_grid_of_mem_points {plan : Plan V} {series : Series V} {point : Int × V}
    (member : point ∈ plan.points series) :
    plan.grid.start ≤ point.1 ∧ point.1 < plan.grid.stop := by
  rcases List.mem_filterMap.mp member with ⟨sample, held, counted⟩
  rcases List.mem_filter.mp held with ⟨seen, late⟩
  rcases List.mem_filter.mp seen with ⟨-, window⟩
  rw [Series.instant_of_contribution? counted]
  simp only [decide_eq_true_eq] at late window
  exact ⟨late, window.2⟩

theorem points_cut (plan : Plan V) (series : Series V) :
    ((plan.cut series).increments plan.grid.start).points = plan.points series := by
  rw [Series.increments_points, entries_cut]
  rfl

theorem sorted_points (plan : Plan V) (series : Series V) :
    (plan.points series).Pairwise fun a b => compare a.1 b.1 = .lt :=
  plan.points_cut series ▸ Series.sorted_increments _ _

/-- The engine's curve of a series has at a boundary the value said to be there. -/
theorem get?_curve (plan : Plan V) (series : Series V) (boundary : Int) :
    (plan.curve (plan.cut series)).points.get? boundary =
      plan.valueAt? series boundary := by
  unfold curve
  rw [points_cut]
  dsimp only
  rw [Curve.get?_ofSummaries _ _ _ _ (plan.sorted_points series)]
  rw [valueAt?]
  split
  · rename_i held
    congr 2
    apply List.filter_congr
    intro point member
    simp [plan.grid.stepOf?_eq_some_iff, held, (on_grid_of_mem_points member).2]
  · rename_i off
    have nothing : (plan.points series).filter
        (fun point => plan.grid.stepOf? point.1 = some boundary) = [] := by
      apply List.filter_eq_nil_iff.mpr
      intro point _ stands
      exact off ((plan.grid.stepOf?_eq_some_iff.mp (of_decide_eq_true stands)).1)
    rw [nothing]
    rfl

/-- A series has a value at a boundary just when it has a point in its step. -/
theorem valueAt?_isSome_iff (plan : Plan V) (series : Series V) (boundary : Int) :
    (plan.valueAt? series boundary).isSome ↔ boundary ∈ plan.grid.boundaries ∧
      ∃ point ∈ plan.points series, plan.grid.inStep boundary point.1 := by
  rw [valueAt?]
  split
  · rename_i held
    rw [TimeReducer.reduce_isSome, Ne, List.map_eq_nil_iff, List.filter_eq_nil_iff]
    simp [held]
  · rename_i off
    simp [off]

theorem isEmpty_curve (plan : Plan V) (series : Series V) :
    (plan.curve (plan.cut series)).points.isEmpty = true ↔
      plan.points series = [] := by
  rw [isEmpty_eq_true_iff]
  simp only [get?_curve]
  constructor
  · intro nowhere
    rw [List.eq_nil_iff_forall_not_mem]
    intro point member
    obtain ⟨boundary, stands⟩ := Option.isSome_iff_exists.mp
      (plan.grid.stepOf?_isSome_iff.mpr (on_grid_of_mem_points member))
    rcases plan.grid.stepOf?_eq_some_iff.mp stands with ⟨held, inside, -⟩
    have there := (plan.valueAt?_isSome_iff series boundary).mpr ⟨held, point, member, inside⟩
    simp [nowhere] at there
  · intro none' boundary
    rw [← Option.not_isSome_iff_eq_none, valueAt?_isSome_iff, none']
    simp

/-! Groups -/

/-- Some series of a group has a value at a boundary just when one has a point in its step. -/
theorem values_ne_nil_iff (plan : Plan V) (series : List (Series V)) (keyOf : Labels → Labels)
    (labels : Labels) (boundary : Int) :
    (series.filterMap fun member =>
      if keyOf member.key.labels = labels then plan.valueAt? member boundary else none) ≠ [] ↔
    boundary ∈ plan.grid.boundaries ∧ ∃ member ∈ series, keyOf member.key.labels = labels ∧
      ∃ point ∈ plan.points member, boundary ≤ point.1 ∧ point.1 < boundary + plan.grid.step ∧
        point.1 < plan.grid.stop := by
  rw [Ne, List.filterMap_eq_nil_iff]
  constructor
  · intro notAll
    rcases Classical.not_forall.mp notAll with ⟨member, absent⟩
    rcases Classical.not_imp.mp absent with ⟨held, absent⟩
    split at absent
    · rename_i same
      have there := Option.isSome_iff_ne_none.mpr absent
      rcases (plan.valueAt?_isSome_iff member boundary).mp there with
        ⟨onGrid, point, inside, inStep⟩
      rcases of_decide_eq_true inStep with ⟨after, before⟩
      exact ⟨onGrid, member, held, same, point, inside, after, before,
        (on_grid_of_mem_points inside).2⟩
    · exact absurd rfl absent
  · rintro ⟨onGrid, member, held, same, point, inside, after, before, -⟩ all
    have there := (plan.valueAt?_isSome_iff member boundary).mpr
      ⟨onGrid, point, inside, decide_eq_true ⟨after, before⟩⟩
    have nowhere := all member held
    rw [if_pos same] at nowhere
    simp [nowhere] at there

/-- Curves with points are those of series with points. -/
theorem exists_curve_iff (plan : Plan V) (members : List (Series V)) (keyOf : Labels → Labels)
    (labels : Labels) :
    (∃ curve ∈ (members.map plan.cut).map plan.curve, curve.points.isEmpty = false ∧
      keyOf curve.labels = labels) ↔
    ∃ member ∈ members, keyOf member.key.labels = labels ∧ plan.points member ≠ [] := by
  constructor
  · intro parts
    rcases parts with ⟨curve, member, filled, rfl⟩
    rcases List.mem_map.mp member with ⟨fetched, held, rfl⟩
    rcases List.mem_map.mp held with ⟨series, source, rfl⟩
    refine ⟨series, source, rfl, ?_⟩
    rw [Ne, ← isEmpty_curve, filled]
    simp
  · intro parts
    rcases parts with ⟨series, source, rfl, some'⟩
    have filled : (plan.curve (plan.cut series)).points.isEmpty = false := by
      rw [← Bool.not_eq_true, isEmpty_curve]
      exact some'
    exact ⟨_, List.mem_map_of_mem (List.mem_map_of_mem source), filled, rfl⟩

theorem mem_keys_groups {plan : Plan V} {members : List (Series V)} {type : MetricType}
    {labels : Labels} : labels ∈ (plan.groups type (members.map plan.cut)).keys ↔
      ∃ member ∈ members, member.key.labels.groupKey plan.groupBy (type = .histogram) = labels ∧
        plan.points member ≠ [] := by
  rw [groups, Grouping.mem_keys_ofCurves, Grouping.members_ne_nil_iff]
  exact plan.exists_curve_iff members (·.groupKey plan.groupBy (type = .histogram)) labels

/-- The curves that series in some order are reduced to are their groups. -/
theorem reduced_grouped (plan : Plan V) (members : List (Series V)) (type : MetricType)
    (listing : Labels → Nat) :
    plan.Grouped members (·.groupKey plan.groupBy (type = .histogram))
      (groupReducer plan.spaceReducer type)
      (plan.reduced type (members.map plan.cut) listing) where
  distinct := Grouping.labels_reduce_nodup _ _ _
  groups := by
    intro labels
    rw [reduced, groups]
    rw [Grouping.exists_mem_reduce_iff]
    exact plan.exists_curve_iff members (·.groupKey plan.groupBy (type = .histogram)) labels
  value := by
    intro group member boundary
    rw [Grouping.get?_of_mem_reduce member, List.map_map, List.filterMap_map]
    congr 2
    funext series
    simp only [Function.comp, get?_curve]
    rfl

end Plan

/-! Runs -/

namespace Engine

/-- The series that a plan looks at, in the order in which a run hands them in. -/
def arrivals (engine : Engine V) (plan : Plan V) (schedule : Schedule) : List (Series V) :=
  schedule.arrive engine.settings.workers (plan.sources engine.store)

variable {engine : Engine V} {plan : Plan V} {schedule : Schedule}

theorem arrivals_perm : (engine.arrivals plan schedule).Perm (plan.sources engine.store) :=
  schedule.arrive_perm _ _

theorem mem_arrivals {series : Series V} :
    series ∈ engine.arrivals plan schedule ↔ series ∈ plan.sources engine.store :=
  arrivals_perm.mem_iff

/-- A single worker goes by the keys of series. -/
theorem arrivals_of_one (alone : engine.settings.workers = 1) :
    engine.arrivals plan schedule = plan.sources engine.store := by
  rw [arrivals, alone, Schedule.arrive_one]

/-- What a run reduces: its series as they are handed in, cut to what the plan looks at. -/
theorem arrive_select : schedule.arrive engine.settings.workers (plan.select engine.store) =
    (engine.arrivals plan schedule).map plan.cut := by
  have keeps (member : Series V) : (plan.cut member).key = member.key := rfl
  rw [Plan.select_eq]
  exact schedule.arrive_map _ keeps _

end Engine

end SeriesQuery
