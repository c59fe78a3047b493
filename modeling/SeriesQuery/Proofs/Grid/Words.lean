import SeriesQuery.Proofs.Grid
/-!
Grids reckoned in 64 bits. Main statement: a range has a grid just when its start, rounded down to a
step, and its length have 64-bit values, and on a grid that there is nothing overflows and every
instant of the range falls into the step of one boundary.
-/
namespace SeriesQuery

theorem mapM_eq_some {α β : Type} {read : α → Option β} {value : α → β} {list : List α}
    (each : ∀ element ∈ list, read element = some (value element)) :
    list.mapM read = some (list.map value) := by
  induction list with
  | nil => rfl
  | cons head tail ih =>
      rw [List.mapM_cons, each head List.mem_cons_self,
        ih fun element member => each element (List.mem_cons_of_mem head member)]
      rfl

namespace Word

/-- Whether an integer has a value in 64 bits. -/
def Fits (value : Int) : Prop := Instant.least ≤ value ∧ value ≤ Instant.greatest

instance (value : Int) : Decidable (Fits value) := inferInstanceAs (Decidable (_ ∧ _))

/-- A result in 64 bits, unless it overflows. -/
def result? (value : Int) : Option Int := if Fits value then some value else none

/-- The quotient rounded towards zero, unless it overflows or there is none. -/
def quotient? (value divisor : Int) : Option Int :=
  if divisor = 0 then none else result? (value.tdiv divisor)

/-- What a quotient leaves, wherever there is a quotient. -/
def remainder? (value divisor : Int) : Option Int :=
  (quotient? value divisor).map fun _ => value.tmod divisor

theorem fits_toInt (word : Int64) : Fits word.toInt := by
  have low := word.le_toInt
  have high := word.toInt_lt
  unfold Fits Instant.least Instant.greatest
  omega

theorem Fits.between {low value high : Int} (fitsLow : Fits low) (fitsHigh : Fits high)
    (above : low ≤ value) (below : value ≤ high) : Fits value :=
  ⟨Int.le_trans fitsLow.1 above, Int.le_trans below fitsHigh.2⟩

theorem fits_zero : Fits 0 := by decide

theorem result?_eq {value : Int} (fits : Fits value) : result? value = some value := if_pos fits

section Division

variable {value divisor : Int} (fits : Fits value) (nonneg : 0 ≤ value) (positive : 0 < divisor)

include fits nonneg positive

theorem quotient?_eq : quotient? value divisor = some (value / divisor) := by
  have low := Int.ediv_nonneg nonneg (Int.le_of_lt positive)
  have high : value / divisor ≤ value := Int.ediv_le_self divisor nonneg
  rw [quotient?, if_neg (Int.ne_of_gt positive), Int.tdiv_eq_ediv_of_nonneg nonneg]
  exact result?_eq (fits_zero.between fits low high)

theorem remainder?_eq : remainder? value divisor = some (value % divisor) := by
  rw [remainder?, quotient?_eq fits nonneg positive, Option.map_some,
    Int.tmod_eq_emod_of_nonneg nonneg]

end Division

end Word

namespace Grid

variable (grid : Grid)

/-- The number of steps in 64 bits: the whole ones, and one more for what they leave. -/
def sizeInWords? : Option Int := do
  let span ← Word.result? (grid.stop - grid.start)
  let whole ← Word.quotient? span grid.step
  let left ← Word.remainder? span grid.step
  Word.result? (whole + if left = 0 then 0 else 1)

def boundaryInWords? (position : Nat) : Option Int := do
  let offset ← Word.result? (position * grid.step)
  Word.result? (grid.start + offset)

def boundariesInWords? : Option (List Int) := do
  let size ← grid.sizeInWords?
  (List.range size.toNat).mapM grid.boundaryInWords?

/-- The boundary of the step of an instant in 64 bits, if it has one; or else nothing. -/
def stepOfInWords? (instant : Int) : Option (Option Int) :=
  if instant < grid.start ∨ grid.stop ≤ instant then some none
  else do
    let offset ← Word.result? (instant - grid.start)
    let left ← Word.remainder? offset grid.step
    let boundary ← Word.result? (instant - left)
    return some boundary

/-- Grids between 64-bit instants, of 64-bit length. -/
structure InWords : Prop where
  start : Word.Fits grid.start
  stop : Word.Fits grid.stop
  span : Word.Fits (grid.stop - grid.start)

variable {grid}

theorem size_eq : (grid.size : Int) =
    (grid.stop - grid.start) / grid.step +
      if (grid.stop - grid.start) % grid.step = 0 then 0 else 1 := by
  have positive := grid.step_pos
  have later := grid.start_lt_stop
  have low := Int.emod_nonneg (grid.stop - grid.start) (Int.ne_of_gt positive)
  have high := Int.emod_lt_of_pos (grid.stop - grid.start) positive
  have split := Int.mul_ediv_add_emod (grid.stop - grid.start) grid.step
  have whole : 0 ≤ (grid.stop - grid.start) / grid.step :=
    Int.ediv_nonneg (by omega) (Int.le_of_lt positive)
  unfold size
  by_cases exact' : (grid.stop - grid.start) % grid.step = 0
  · have rounded : (grid.stop - grid.start + grid.step - 1) / grid.step =
        (grid.stop - grid.start) / grid.step :=
      ((Int.ediv_emod_unique positive).mpr
        ⟨(by omega : grid.step - 1 + grid.step * _ = _), by omega, by omega⟩).1
    rw [rounded, if_pos exact']
    omega
  · have product : grid.step * ((grid.stop - grid.start) / grid.step + 1) =
        grid.step * ((grid.stop - grid.start) / grid.step) + grid.step := by
      rw [Int.mul_add, Int.mul_one]
    have rounded : (grid.stop - grid.start + grid.step - 1) / grid.step =
        (grid.stop - grid.start) / grid.step + 1 :=
      ((Int.ediv_emod_unique positive).mpr
        ⟨(by omega : (grid.stop - grid.start) % grid.step - 1 + grid.step * _ = _),
          by omega, by omega⟩).1
    rw [rounded, if_neg exact']
    omega

theorem size_pos : 1 ≤ grid.size := by
  apply grid.lt_size.mpr
  have later := grid.start_lt_stop
  rw [boundary]
  omega

/-- There are no more steps than instants. -/
theorem size_le : (grid.size : Int) ≤ grid.stop - grid.start := by
  have positive := grid.step_pos
  have filled := grid.size_pos
  have last : grid.boundary (grid.size - 1) < grid.stop := grid.lt_size.mp (by omega)
  have steps : ((grid.size - 1 : Nat) : Int) * 1 ≤ (grid.size - 1 : Nat) * grid.step :=
    Int.mul_le_mul_of_nonneg_left positive (Int.natCast_nonneg _)
  rw [boundary] at last
  omega

namespace InWords

variable (words : grid.InWords)

include words

theorem sizeInWords?_eq : grid.sizeInWords? = some (grid.size : Int) := by
  have later := grid.start_lt_stop
  have nonneg : 0 ≤ grid.stop - grid.start := by omega
  have fits : Word.Fits (grid.size : Int) :=
    Word.fits_zero.between words.span (Int.natCast_nonneg _) grid.size_le
  rw [size_eq] at fits
  rw [sizeInWords?, Word.result?_eq words.span]
  simp only [Option.bind_eq_bind, Option.bind_some,
    Word.quotient?_eq words.span nonneg grid.step_pos,
    Word.remainder?_eq words.span nonneg grid.step_pos]
  rw [Word.result?_eq fits, size_eq]

theorem boundaryInWords?_eq {position : Nat} (member : position < grid.size) :
    grid.boundaryInWords? position = some (grid.boundary position) := by
  have before := grid.lt_size.mp member
  have offset : 0 ≤ (position : Int) * grid.step :=
    Int.mul_nonneg (Int.natCast_nonneg _) (Int.le_of_lt grid.step_pos)
  unfold boundary at before ⊢
  have fitsOffset : Word.Fits (position * grid.step) :=
    Word.fits_zero.between words.span offset (by omega)
  have fits : Word.Fits (grid.start + position * grid.step) :=
    words.start.between words.stop (by omega) (by omega)
  rw [boundaryInWords?, Word.result?_eq fitsOffset]
  exact Word.result?_eq fits

theorem boundariesInWords?_eq : grid.boundariesInWords? = some grid.boundaries := by
  rw [boundariesInWords?, words.sizeInWords?_eq]
  exact mapM_eq_some fun position member => words.boundaryInWords?_eq (List.mem_range.mp member)

theorem stepOfInWords?_eq {instant : Int} (fits : Word.Fits instant) :
    grid.stepOfInWords? instant = some (grid.stepOf? instant) := by
  unfold stepOfInWords? stepOf?
  split
  · rfl
  · rename_i inside
    have nonneg : 0 ≤ instant - grid.start := by omega
    have low := Int.emod_nonneg (instant - grid.start) (Int.ne_of_gt grid.step_pos)
    have split := Int.mul_ediv_add_emod (instant - grid.start) grid.step
    have whole : 0 ≤ grid.step * ((instant - grid.start) / grid.step) :=
      Int.mul_nonneg (Int.le_of_lt grid.step_pos)
        (Int.ediv_nonneg nonneg (Int.le_of_lt grid.step_pos))
    have fitsOffset : Word.Fits (instant - grid.start) :=
      Word.fits_zero.between words.span nonneg (by omega)
    have fitsBoundary : Word.Fits (instant - (instant - grid.start) % grid.step) :=
      words.start.between fits (by omega) (by omega)
    rw [Word.result?_eq fitsOffset]
    simp only [Option.bind_eq_bind, Option.bind_some,
      Word.remainder?_eq fitsOffset nonneg grid.step_pos, Word.result?_eq fitsBoundary]
    rfl

end InWords

theorem inWords_of_cover {start stop step : Int64}
    (covered : cover start.toInt stop.toInt step.toInt = .ok grid) : grid.InWords := by
  rcases cover_eq_ok covered with ⟨⟨aligned, last, -⟩, early, wide⟩
  have later := grid.start_lt_stop
  have fitsStart : Word.Fits grid.start := by
    refine ⟨early, Int.le_trans ?_ (Word.fits_toInt start).2⟩
    rw [aligned]
    exact align_le (by rw [← (cover_eq_ok covered).1.2.2]; exact grid.step_pos) _
  have fitsStop : Word.Fits grid.stop := last ▸ Word.fits_toInt stop
  refine ⟨fitsStart, fitsStop, ?_, wide⟩
  exact Int.le_trans Word.fits_zero.1 (by omega)

/-- Rounding down to a step, by the floor of the quotient. -/
theorem align_eq (instant step : Int) : align instant step = step * (instant / step) := by
  have split := Int.mul_ediv_add_emod instant step
  unfold align
  omega

/-- What the grid of a range is made of: steps that part the range among themselves. -/
structure Tiles (grid : Grid) (start stop step : Int) : Prop where
  step_eq : grid.step = step
  stop_eq : grid.stop = stop
  aligned : grid.start ≤ start ∧ start < grid.start + step
  filled : 1 ≤ grid.size
  boundaries : grid.boundaries =
    (List.range grid.size).map fun (position : Nat) => grid.start + position * step
  increasing : grid.boundaries.Pairwise (· < ·)
  multiple : ∀ boundary ∈ grid.boundaries, step ∣ boundary
  before : ∀ boundary ∈ grid.boundaries, boundary < stop
  inside : ∀ instant, (grid.stepOf? instant).isSome ↔ grid.start ≤ instant ∧ instant < stop
  holds : ∀ instant boundary, grid.stepOf? instant = some boundary ↔
    (boundary ∈ grid.boundaries ∧ boundary ≤ instant ∧ instant < boundary + step) ∧ instant < stop
  unique : ∀ instant, ∀ boundary ∈ grid.boundaries, ∀ other ∈ grid.boundaries,
    boundary ≤ instant → instant < boundary + step → other ≤ instant → instant < other + step →
      other = boundary
  image : ∀ boundary, boundary ∈ grid.boundaries ↔
    ∃ instant : Int64, grid.stepOf? instant.toInt = some boundary

/-- That everything reckoned on a grid is the same in 64 bits. -/
structure Reckoned (grid : Grid) : Prop where
  size : grid.sizeInWords? = some (grid.size : Int)
  boundaries : grid.boundariesInWords? = some grid.boundaries
  stepOf : ∀ instant : Int64, grid.stepOfInWords? instant.toInt = some (grid.stepOf? instant.toInt)

theorem dvd_align (instant step : Int) : step ∣ align instant step :=
  ⟨instant / step, align_eq instant step⟩

theorem lt_align_add {step : Int} (positive : 0 < step) (instant : Int) :
    instant < align instant step + step := by
  have := Int.emod_lt_of_pos instant positive
  unfold align
  omega

/-- On a grid that starts at a multiple of its step, boundaries do not depend on the start. -/
theorem stepOf?_eq_align (multiple : grid.step ∣ grid.start) {instant : Int}
    (inside : (grid.stepOf? instant).isSome) :
    grid.stepOf? instant = some (align instant grid.step) := by
  have bounds := grid.stepOf?_isSome_iff.mp inside
  have same : (instant - grid.start) % grid.step = instant % grid.step := by
    rcases multiple with ⟨quotient, whole⟩
    rw [whole, Int.sub_mul_emod_self_left]
  rw [stepOf?, if_neg (by omega), same, align]

theorem increasing_boundaries : grid.boundaries.Pairwise (· < ·) := by
  refine List.pairwise_map.mpr (List.pairwise_lt_range.imp ?_)
  intro first second less
  have apart : (first : Int) * grid.step < second * grid.step :=
    Int.mul_lt_mul_of_pos_right (by omega) grid.step_pos
  unfold boundary
  omega

theorem dvd_of_mem_boundaries (multiple : grid.step ∣ grid.start) {boundary : Int}
    (member : boundary ∈ grid.boundaries) : grid.step ∣ boundary := by
  have offset := (grid.mem_boundaries.mp member).1
  have whole := Int.dvd_add offset multiple
  rwa [Int.sub_add_cancel] at whole

/-- A multiple of the step at most one step before an instant is the instant rounded down. -/
theorem eq_align {step boundary instant : Int} (multiple : step ∣ boundary)
    (from' : boundary ≤ instant) (until' : instant < boundary + step) :
    boundary = align instant step := by
  rcases multiple with ⟨quotient, rfl⟩
  have left : instant % step = instant - step * quotient :=
    ((Int.ediv_emod_unique (q := quotient) (by omega)).mpr ⟨by omega, by omega, by omega⟩).2
  unfold align
  omega

theorem dvd_start_of_cover {start stop step : Int} (covered : cover start stop step = .ok grid) :
    grid.step ∣ grid.start := by
  have fields := (cover_eq_ok covered).1
  rw [fields.1, fields.2.2]
  exact dvd_align _ _

theorem tiles_of_cover {start stop step : Int64}
    (covered : cover start.toInt stop.toInt step.toInt = .ok grid) :
    grid.Tiles start.toInt stop.toInt step.toInt := by
  rcases cover_eq_ok covered with ⟨⟨aligned, last, width⟩, -⟩
  have words := inWords_of_cover covered
  have positive : 0 < step.toInt := width ▸ grid.step_pos
  have multiple := dvd_start_of_cover covered
  have multiples (boundary : Int) (member : boundary ∈ grid.boundaries) :
      step.toInt ∣ boundary := width ▸ dvd_of_mem_boundaries multiple member
  have holds (instant boundary : Int) : grid.stepOf? instant = some boundary ↔
      (boundary ∈ grid.boundaries ∧ boundary ≤ instant ∧ instant < boundary + step.toInt) ∧
        instant < stop.toInt := by
    rw [stepOf?_eq_some_iff, inStep, decide_eq_true_eq, last, width, and_assoc, and_assoc,
      and_assoc]
  refine ⟨width, last, ⟨?_, ?_⟩, grid.size_pos, ?_, increasing_boundaries, multiples, ?_, ?_, holds,
    ?_, ?_⟩
  · rw [aligned]
    exact align_le positive _
  · rw [aligned]
    exact lt_align_add positive _
  · rw [← width]
    rfl
  · intro boundary member
    exact last ▸ (grid.mem_boundaries.mp member).2.2
  · intro instant
    rw [stepOf?_isSome_iff, last]
  · intro instant boundary first other second from' until' from'' until''
    rw [eq_align (multiples boundary first) from' until',
      eq_align (multiples other second) from'' until'']
  · intro boundary
    constructor
    · intro member
      have ⟨_, after, before⟩ := grid.mem_boundaries.mp member
      have fits : Word.Fits boundary :=
        words.start.between words.stop after (Int.le_of_lt before)
      refine ⟨Int64.ofInt boundary, ?_⟩
      rw [Int64.toInt_ofInt_of_le fits.1 (Int.lt_add_one_of_le fits.2), holds]
      exact ⟨⟨member, Int.le_refl _, by omega⟩, last ▸ before⟩
    · rintro ⟨instant, found⟩
      exact ((holds _ _).mp found).1.1

theorem reckoned_of_cover {start stop step : Int64}
    (covered : cover start.toInt stop.toInt step.toInt = .ok grid) : grid.Reckoned :=
  have words := inWords_of_cover covered
  ⟨words.sizeInWords?_eq, words.boundariesInWords?_eq,
    fun instant => words.stepOfInWords?_eq (Word.fits_toInt instant)⟩

theorem cover_eq_error_iff {start stop step : Int} :
    (∃ fault, cover start stop step = .error fault) ↔
      step ≤ 0 ∨ stop ≤ start ∨ align start step < Instant.least ∨
        Instant.greatest < stop - align start step := by
  unfold cover
  split
  · split
    · split
      · rename_i unfit
        exact ⟨fun _ => .inr (.inr unfit), fun _ => ⟨_, rfl⟩⟩
      · rename_i positive later fits
        constructor
        · rintro ⟨fault, refused⟩
          cases refused
        · intro bad
          omega
    · exact ⟨fun _ => by omega, fun _ => ⟨_, rfl⟩⟩
  · exact ⟨fun _ => by omega, fun _ => ⟨_, rfl⟩⟩

theorem cover_tiles (start stop step : Int64) :
    ((∃ fault, cover start.toInt stop.toInt step.toInt = .error fault) ↔
      step.toInt ≤ 0 ∨ stop.toInt ≤ start.toInt ∨
      step.toInt * (start.toInt / step.toInt) < Instant.least ∨
      Instant.greatest < stop.toInt - step.toInt * (start.toInt / step.toInt)) ∧
    ∀ grid, cover start.toInt stop.toInt step.toInt = .ok grid →
      grid.Tiles start.toInt stop.toInt step.toInt ∧ grid.Reckoned ∧
      ∀ (otherStart otherStop : Int64) other,
        cover otherStart.toInt otherStop.toInt step.toInt = .ok other →
        ∀ instant, (grid.stepOf? instant).isSome → (other.stepOf? instant).isSome →
          grid.stepOf? instant = other.stepOf? instant := by
  refine ⟨?_, ?_⟩
  · rw [cover_eq_error_iff, align_eq]
  · intro grid covered
    refine ⟨tiles_of_cover covered, reckoned_of_cover covered, ?_⟩
    intro otherStart otherStop other covered' instant here there
    rw [stepOf?_eq_align (dvd_start_of_cover covered) here,
      stepOf?_eq_align (dvd_start_of_cover covered') there, (cover_eq_ok covered).1.2.2,
      (cover_eq_ok covered').1.2.2]

/-- A range from the least start that can be rounded down to seconds, of nearly full length. -/
theorem cover_tiles_widest :
    ∃ grid, cover (Int64.toInt (-9223372036854774001)) (Int64.toInt 5) (Int64.toInt 1000) =
        .ok grid ∧
      grid.Tiles (Int64.toInt (-9223372036854774001)) (Int64.toInt 5) (Int64.toInt 1000) ∧
      grid.Reckoned ∧ grid.start = -9223372036854775000 ∧ grid.size = 9223372036854776 ∧
      grid.stepOf? (-1) = some (-1000) := by
  have covered : cover (Int64.toInt (-9223372036854774001)) (Int64.toInt 5) (Int64.toInt 1000) =
      .ok ⟨-9223372036854775000, 5, 1000, by decide, by decide⟩ := rfl
  have tiled := (cover_tiles (-9223372036854774001) 5 1000).2 _ covered
  exact ⟨_, covered, tiled.1, tiled.2.1, rfl, by decide, by decide⟩

end Grid

end SeriesQuery
