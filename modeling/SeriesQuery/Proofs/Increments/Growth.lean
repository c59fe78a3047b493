import Mathlib.Algebra.BigOperators.Intervals
import Mathlib.Data.Nat.Find
import SeriesQuery.Proofs.Curve.Steps
import SeriesQuery.Proofs.Increments.Window
import SeriesQuery.Proofs.Mean
/-!
What a running total grows by in a grid. Main statement: without rounding, the increases of all
steps add up to the last total in the grid less the one the first increment is set against, and the
totals lost at restarts come on top. The width of the steps does not matter.
-/
namespace SeriesQuery

section Steps

variable {V : Type} [Scalar V] [Scalar.Regroupable V]

namespace Grid

/-- The steps of a grid hold the points between its ends, each in one step. -/
theorem sum_summaries (grid : Grid) (points : List (Int × V)) :
    Scalar.sum ((grid.summaries points).values.map (·.sum)) =
      Scalar.sum ((points.filter fun point =>
        grid.start ≤ point.1 ∧ point.1 < grid.stop).map (·.2)) :=
  grid.foldl_summaries Scalar.Regroupable.add (·.sum) id (fun _ _ => rfl) (fun _ _ _ => rfl)
    points _

end Grid

end Steps

namespace Series

/-- The same series with values that are added without rounding. -/
def exact (series : Series Rat) : Series Exact where
  key := series.key
  type := series.type
  temporality := series.temporality
  samples := series.samples.mapValues fun _ => .finite

/-- What the increases of all steps of a grid add up to. -/
def growth {V : Type} [Scalar V] (series : Series V) (grid : Grid) : V :=
  Scalar.sum (Curve.ofSummaries series.key.labels
    (grid.summaries (series.increments grid.start).points) .increase
    grid.stepSeconds).points.values

theorem growth_eq_sum {V : Type} [Scalar V] [Scalar.Regroupable V] (series : Series V)
    (grid : Grid) :
    series.growth grid = Scalar.sum (((series.increments grid.start).points.filter fun point =>
      grid.start ≤ point.1 ∧ point.1 < grid.stop).map (·.2)) := by
  rw [growth, ← Grid.sum_summaries]
  simp only [Curve.ofSummaries, SortedMap.values, SortedMap.mapValues, List.map_map]
  rfl

section Positions

variable (series : Series Rat)

def instantAt (position : Nat) : Int := (series.samples.entries.getD position (0, 0)).1

def valueAt (position : Nat) : Rat := (series.samples.entries.getD position (0, 0)).2

/-- Whether a sample is in a grid. -/
def InGrid (grid : Grid) (position : Nat) : Prop :=
  position < series.samples.size ∧
    grid.start ≤ series.instantAt position ∧ series.instantAt position < grid.stop

instance (grid : Grid) (position : Nat) : Decidable (series.InGrid grid position) :=
  inferInstanceAs (Decidable (_ ∧ _ ∧ _))

/-- The samples in a grid that have one before them. -/
def gridPositions (grid : Grid) : Finset Nat :=
  {position ∈ Finset.Ico 1 series.samples.size | series.InGrid grid position}

/-- Whether a sample is the last one before an instant. -/
structure LastBefore (instant : Int) (position : Nat) : Prop where
  held : position < series.samples.size
  before : series.instantAt position < instant
  last : ∀ other < series.samples.size, series.instantAt other < instant → other ≤ position

/--
The sample that growth in a grid begins at: the last one before the grid, or the first one in it if
there is none before.
-/
inductive Anchor (grid : Grid) (position : Nat) : Prop where
  | before (last : series.LastBefore grid.start position)
  | first (late : ∀ other < series.samples.size, grid.start ≤ series.instantAt other)
      (inside : series.InGrid grid position)
      (least : ∀ other, series.InGrid grid other → position ≤ other)

variable {series}

theorem instantAt_lt {earlier later : Nat} (less : earlier < later)
    (held : later < series.samples.size) :
    series.instantAt earlier < series.instantAt later := by
  rw [SortedMap.size] at held
  have held' := less.trans held
  have sorted := List.pairwise_iff_getElem.mp series.samples.sorted earlier later held' held less
  rw [Int.compare_eq_lt] at sorted
  simpa [instantAt, List.getD_eq_getElem?_getD, held, held'] using sorted

theorem instantAt_le {earlier later : Nat} (le : earlier ≤ later)
    (held : later < series.samples.size) :
    series.instantAt earlier ≤ series.instantAt later := by
  rcases le.lt_or_eq with less | rfl
  · exact (instantAt_lt less held).le
  · exact le_rfl

theorem LastBefore.lt_iff {instant : Int} {position other : Nat}
    (last : series.LastBefore instant position) (held : other < series.samples.size) :
    series.instantAt other < instant ↔ other ≤ position :=
  ⟨last.last other held, fun le => (instantAt_le le last.held).trans_lt last.before⟩

theorem exists_lastBefore {instant : Int} {position : Nat} (held : position < series.samples.size)
    (before : series.instantAt position < instant) :
    ∃ last, series.LastBefore instant last := by
  have found := Nat.findGreatest_spec (P := fun other =>
    other < series.samples.size ∧ series.instantAt other < instant) held.le ⟨held, before⟩
  refine ⟨_, found.1, found.2, fun other inside early => ?_⟩
  exact Nat.le_findGreatest inside.le ⟨inside, early⟩

variable {grid : Grid}

theorem Anchor.inGrid_iff {anchor last position : Nat} (anchored : series.Anchor grid anchor)
    (ends : series.LastBefore grid.stop last) (positive : 1 ≤ position) :
    series.InGrid grid position ↔ position ∈ Finset.Ioc anchor last := by
  have until' (held : position < series.samples.size) :
      series.instantAt position < grid.stop ↔ position ≤ last := ends.lt_iff held
  have from' (held : position < series.samples.size) (early : position ≤ last) :
      grid.start ≤ series.instantAt position ↔ anchor < position := by
    rcases anchored with before | ⟨late, inside, least⟩
    · rw [← not_lt, before.lt_iff held, not_le]
    · -- No sample is before the grid, so the first one in it is the first of all.
      have origin : series.InGrid grid 0 := by
        refine ⟨inside.1.pos, late 0 inside.1.pos, ?_⟩
        exact (instantAt_le (Nat.zero_le _) inside.1).trans_lt inside.2.2
      have := least 0 origin
      exact iff_of_true (late position held) (by omega)
  rw [InGrid, Finset.mem_Ioc]
  constructor
  · rintro ⟨held, after, early⟩
    have le := (until' held).mp early
    exact ⟨(from' held le).mp after, le⟩
  · rintro ⟨after, le⟩
    have held := le.trans_lt ends.held
    exact ⟨held, (from' held le).mpr after, (until' held).mpr le⟩

theorem Anchor.le {anchor last : Nat} (anchored : series.Anchor grid anchor)
    (ends : series.LastBefore grid.stop last) : anchor ≤ last := by
  rcases anchored with before | ⟨-, ⟨held, -, early⟩, -⟩
  · exact ends.last anchor before.held (before.before.trans grid.start_lt_stop)
  · exact ends.last anchor held early

/-- A sample in a grid, unless it is the first of all, comes after the one growth begins at. -/
theorem exists_anchor {position : Nat} (inside : series.InGrid grid position)
    (positive : 1 ≤ position) : ∃ anchor < position, series.Anchor grid anchor := by
  by_cases earlier : ∃ other < series.samples.size, series.instantAt other < grid.start
  · rcases earlier with ⟨other, held, early⟩
    rcases exists_lastBefore held early with ⟨anchor, last⟩
    refine ⟨anchor, ?_, .before last⟩
    rw [← not_le, ← last.lt_iff inside.1, not_lt]
    exact inside.2.1
  · have late : ∀ other < series.samples.size, grid.start ≤ series.instantAt other :=
      fun other held => not_lt.mp fun early => earlier ⟨other, held, early⟩
    refine ⟨0, positive, .first late ⟨inside.1.pos, late 0 inside.1.pos, ?_⟩ ?_⟩
    · exact (instantAt_lt positive inside.1).trans inside.2.2
    · exact fun other _ => Nat.zero_le other

theorem mem_gridPositions {position : Nat} :
    position ∈ series.gridPositions grid ↔ 1 ≤ position ∧ series.InGrid grid position := by
  rw [gridPositions, Finset.mem_filter, Finset.mem_Ico]
  exact ⟨fun held => ⟨held.1.1, held.2⟩, fun held => ⟨⟨held.1, held.2.1⟩, held.2⟩⟩

theorem Anchor.gridPositions_eq {anchor last : Nat} (anchored : series.Anchor grid anchor)
    (ends : series.LastBefore grid.stop last) :
    series.gridPositions grid = Finset.Ioc anchor last := by
  ext position
  rw [mem_gridPositions]
  constructor
  · rintro ⟨positive, inside⟩
    exact (anchored.inGrid_iff ends positive).mp inside
  · intro member
    have positive : 1 ≤ position := (Finset.mem_Ioc.mp member).1.pos
    exact ⟨positive, (anchored.inGrid_iff ends positive).mpr member⟩

theorem gridPositions_eq_empty (none' : ∀ anchor position, series.Anchor grid anchor →
    series.InGrid grid position → position ≤ anchor) : series.gridPositions grid = ∅ := by
  refine Finset.eq_empty_of_forall_notMem fun position member => ?_
  rcases mem_gridPositions.mp member with ⟨positive, inside⟩
  rcases exists_anchor inside positive with ⟨anchor, less, anchored⟩
  exact less.not_ge (none' anchor position anchored inside)

theorem gridPositions_congr {other : Grid} (start : other.start = grid.start)
    (stop : other.stop = grid.stop) : series.gridPositions other = series.gridPositions grid := by
  ext position
  rw [mem_gridPositions, mem_gridPositions, InGrid, InGrid, start, stop]

end Positions

section Rises

/-- What a total has grown by. -/
def rise (before after : Rat) : Rat := if before ≤ after then after - before else after

theorem increment_finite (before after : Rat) :
    increment (Exact.finite before) (.finite after) = .finite (rise before after) := by
  by_cases grown : before ≤ after
  · simp [increment, hasFallen, rise, Exact.finite_le_iff, Exact.finite_sub, grown]
  · simp [increment, hasFallen, rise, Exact.finite_le_iff, grown]

variable (series : Series Rat)

theorem zipWith_exact :
    series.exact.samples.entries.zipWith (fun before after => (before.2, after))
        series.exact.samples.entries.tail =
      (List.range' 1 (series.samples.size - 1)).map fun position =>
        (.finite (series.valueAt (position - 1)), series.instantAt position,
          .finite (series.valueAt position)) := by
  apply List.ext_getElem
  · simp [exact, SortedMap.mapValues, SortedMap.size]
  · intro position left right
    have held : position + 1 < series.samples.entries.length := by
      simp [SortedMap.size] at right
      omega
    simp [exact, SortedMap.mapValues, valueAt, instantAt, List.getD_eq_getElem?_getD, held,
      Nat.lt_of_succ_lt held, Nat.add_comm 1]

/-- Growth in a grid is what the samples in it have grown by, each since the sample before. -/
theorem growth_exact (total : series.isRunningTotal = true) (grid : Grid) :
    series.exact.growth grid =
      .finite (∑ position ∈ series.gridPositions grid,
        rise (series.valueAt (position - 1)) (series.valueAt position)) := by
  have same : series.exact.isRunningTotal = true := total
  have inside : ∀ position ∈ List.range' 1 (series.samples.size - 1),
      ((decide (grid.start ≤ series.instantAt position ∧ series.instantAt position < grid.stop) &&
        decide (grid.start ≤ series.instantAt position)) =
          decide (series.InGrid grid position)) := by
    intro position member
    have held : position < series.samples.size := by
      have := List.mem_range'_1.mp member
      omega
    rw [← Bool.decide_and, decide_eq_decide]
    exact ⟨fun parts => ⟨held, parts.1⟩, fun parts => ⟨parts.2, parts.2.1⟩⟩
  rw [growth_eq_sum, increments, if_pos same, successions, zipWith_exact]
  simp only [List.filter_map, List.map_map, Function.comp_def, increment_finite,
    List.filter_filter]
  rw [List.filter_congr inside, Exact.sum_finite]
  rfl

/-- Growth is the difference of the ends, and the totals before each fall on top. -/
theorem sum_rise {anchor last : Nat} (le : anchor ≤ last) :
    ∑ position ∈ Finset.Ioc anchor last,
        rise (series.valueAt (position - 1)) (series.valueAt position) =
      series.valueAt last - series.valueAt anchor +
        ∑ position ∈ Finset.Ioc anchor last with
          series.valueAt position < series.valueAt (position - 1),
          series.valueAt (position - 1) := by
  induction last, le using Nat.le_induction with
  | base => simp
  | succ last le ih =>
      rw [Finset.sum_filter] at ih ⊢
      rw [Finset.sum_Ioc_succ_top le, Finset.sum_Ioc_succ_top le, ih, Nat.add_sub_cancel, rise]
      by_cases grown : series.valueAt last ≤ series.valueAt (last + 1)
      · rw [if_pos grown, if_neg grown.not_gt]
        ring
      · rw [if_neg grown, if_pos (not_le.mp grown)]
        ring

end Rises

/-- Where adding does not round, no growth in a grid is lost, and none is counted twice. -/
theorem growth_conserved (series : Series Rat) (grid : Grid)
    (monotonic : series.type.isMonotonic = true)
    (running : series.temporality = .cumulative ∨ series.temporality = .unspecified) :
    (∀ anchor last, series.Anchor grid anchor → series.LastBefore grid.stop last →
      series.exact.growth grid = .finite (series.valueAt last - series.valueAt anchor +
        ∑ position ∈ Finset.Ioc anchor last with
          series.valueAt position < series.valueAt (position - 1),
          series.valueAt (position - 1))) ∧
    ((∀ anchor position, series.Anchor grid anchor → series.InGrid grid position →
      position ≤ anchor) → series.exact.growth grid = .finite 0) ∧
    ∀ other : Grid, other.start = grid.start → other.stop = grid.stop →
      series.exact.growth other = series.exact.growth grid := by
  have total := (isRunningTotal_iff series).mpr ⟨monotonic, running⟩
  refine ⟨?_, ?_, ?_⟩
  · intro anchor last anchored ends
    rw [growth_exact series total, anchored.gridPositions_eq ends,
      sum_rise series (anchored.le ends)]
  · intro none'
    rw [growth_exact series total, gridPositions_eq_empty none', Finset.sum_empty]
  · intro other start stop
    rw [growth_exact series total, growth_exact series total, gridPositions_congr start stop]

/-- A counter that restarts twice, with samples before a grid, in it and after it. -/
def refilled : Series Rat where
  key := ⟨"requests", ∅⟩
  type := .sum
  temporality := .cumulative
  samples := ⟨[(0, 5), (10, 7), (20, 3), (30, 4), (40, 1), (50, 9)], by decide⟩

theorem growth_conserved_refilled :
    let grid : Grid := ⟨15, 45, 20, by decide, by decide⟩
    let narrow : Grid := ⟨15, 45, 7, by decide, by decide⟩
    let after : Grid := ⟨60, 70, 4, by decide, by decide⟩
    refilled.type.isMonotonic = true ∧ refilled.temporality = .cumulative ∧
      refilled.Anchor grid 1 ∧ refilled.LastBefore grid.stop 4 ∧
      refilled.exact.growth grid = .finite (1 - 7 + (7 + 4)) ∧
      refilled.exact.growth narrow = refilled.exact.growth grid ∧
      refilled.exact.growth after = .finite 0 := by
  intro grid narrow after
  have anchored : refilled.Anchor grid 1 := .before ⟨by decide, by decide, by decide⟩
  have ends : refilled.LastBefore grid.stop 4 := ⟨by decide, by decide, by decide⟩
  have conserved := growth_conserved refilled grid rfl (.inl rfl)
  refine ⟨rfl, rfl, anchored, ends, ?_, conserved.2.2 narrow rfl rfl, ?_⟩
  · rw [conserved.1 1 4 anchored ends]
    decide +kernel
  · refine (growth_conserved refilled after rfl (.inl rfl)).2.1 ?_
    rintro anchor position - ⟨held, late, -⟩
    have early : ∀ other < refilled.samples.size, refilled.instantAt other < 60 := by decide
    exact absurd late (not_le.mpr (early position held))

end Series

end SeriesQuery
