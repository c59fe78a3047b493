import SeriesQuery.Grid
/-! The steps of a grid: which instants belong to a boundary, and which boundaries there are. -/
namespace SeriesQuery.Grid

/-- A grid that covers a range has its start and its width within 64 bits. -/
theorem cover_eq_ok {start stop step : Int} {grid : Grid}
    (covered : cover start stop step = .ok grid) :
    (grid.start = align start step ∧ grid.stop = stop ∧ grid.step = step) ∧
      Instant.least ≤ grid.start ∧ grid.stop - grid.start ≤ Instant.greatest := by
  rw [cover] at covered
  split at covered
  · split at covered
    · split at covered
      · cases covered
      · rename_i fits
        cases covered
        exact ⟨⟨rfl, rfl, rfl⟩, Int.not_lt.mp fun early => fits (.inl early),
          Int.not_lt.mp fun wide => fits (.inr wide)⟩
    · cases covered
  · cases covered

variable (grid : Grid)

/-- Whether an instant is in the step that starts at the boundary. -/
def inStep (boundary instant : Int) : Bool :=
  boundary ≤ instant ∧ instant < boundary + grid.step

theorem lt_size {position : Nat} : position < grid.size ↔ grid.boundary position < grid.stop := by
  have positive := grid.step_pos
  have quotient : (position : Int) + 1 ≤ (grid.stop - grid.start + grid.step - 1) / grid.step ↔
      ((position : Int) + 1) * grid.step ≤ grid.stop - grid.start + grid.step - 1 :=
    Int.le_ediv_iff_mul_le positive
  have product : ((position : Int) + 1) * grid.step = position * grid.step + grid.step := by
    rw [Int.add_mul, Int.one_mul]
  rw [product] at quotient
  unfold size boundary
  constructor
  · intro below
    have := quotient.mp (by omega)
    omega
  · intro before
    have := quotient.mpr (by omega)
    omega

theorem mem_boundaries {boundary : Int} :
    boundary ∈ grid.boundaries ↔
      grid.step ∣ boundary - grid.start ∧ grid.start ≤ boundary ∧ boundary < grid.stop := by
  have positive := grid.step_pos
  rw [boundaries]
  rw [List.mem_map]
  constructor
  · intro parts
    rcases parts with ⟨position, member, rfl⟩
    have before := (lt_size grid).mp (List.mem_range.mp member)
    have nonnegative : 0 ≤ (position : Int) * grid.step :=
      Int.mul_nonneg (Int.natCast_nonneg position) (Int.le_of_lt positive)
    refine ⟨⟨position, ?_⟩, ?_, before⟩
    · rw [Grid.boundary]
      rw [Int.mul_comm]
      omega
    · rw [Grid.boundary]
      omega
  · intro parts
    rcases parts with ⟨⟨quotient, multiple⟩, after, before⟩
    have nonnegative : 0 ≤ quotient := by
      apply Int.not_lt.mp
      intro negative
      have := Int.mul_neg_of_pos_of_neg positive negative
      omega
    rcases Int.eq_ofNat_of_zero_le nonnegative with ⟨position, rfl⟩
    have place : grid.boundary position = boundary := by
      rw [Grid.boundary]
      rw [Int.mul_comm]
      omega
    exact ⟨position, List.mem_range.mpr ((lt_size grid).mpr (place ▸ before)), place⟩

/-- An instant belongs to the one boundary whose step holds it. -/
theorem stepOf?_eq_some_iff {instant boundary : Int} :
    grid.stepOf? instant = some boundary ↔
      boundary ∈ grid.boundaries ∧ grid.inStep boundary instant ∧ instant < grid.stop := by
  have positive := grid.step_pos
  have low := Int.emod_nonneg (instant - grid.start) (Int.ne_of_gt positive)
  have high := Int.emod_lt_of_pos (instant - grid.start) positive
  have split := Int.mul_ediv_add_emod (instant - grid.start) grid.step
  rw [mem_boundaries]
  unfold stepOf? inStep
  simp only [decide_eq_true_eq]
  split
  · constructor
    · intro impossible
      cases impossible
    · intro parts
      rcases parts with ⟨⟨-, after, -⟩, ⟨from', -⟩, before⟩
      omega
  · rename_i inside
    rw [Option.some.injEq]
    constructor
    · intro same
      subst same
      have whole : grid.step ∣ instant - (instant - grid.start) % grid.step - grid.start :=
        ⟨(instant - grid.start) / grid.step, by omega⟩
      have early : 0 ≤ (instant - grid.start) / grid.step :=
        Int.ediv_nonneg (by omega) (Int.le_of_lt positive)
      have room := Int.mul_nonneg (Int.le_of_lt positive) early
      exact ⟨⟨whole, by omega, by omega⟩, ⟨by omega, by omega⟩, by omega⟩
    · intro parts
      rcases parts with ⟨⟨⟨quotient, multiple⟩, -, -⟩, ⟨from', until'⟩, -⟩
      have same : (instant - grid.start) % grid.step = instant - boundary := by
        have shape : instant - grid.start = instant - boundary + grid.step * quotient := by omega
        rw [shape, Int.add_mul_emod_self_left]
        exact Int.emod_eq_of_lt (by omega) (by omega)
      omega

theorem stepOf?_isSome_iff {instant : Int} :
    (grid.stepOf? instant).isSome ↔ grid.start ≤ instant ∧ instant < grid.stop := by
  rw [stepOf?]
  split
  · simp
    omega
  · simp
    omega

/-- Steps of a minute. -/
theorem minute_pos : (0 : Int) < 60000 := by decide

end SeriesQuery.Grid
