import SeriesQuery.Failure.Query
/-!
The grid of a query: steps of equal width that cover a range of time.

Steps are named by their first instant, their boundary. Boundaries are multiples of the step, so
grids of one width line up whatever range they cover.
-/
namespace SeriesQuery

structure Grid where
  start : Int
  stop : Int
  step : Int
  step_pos : 0 < step
  start_lt_stop : start < stop

namespace Grid

/-- The last multiple of the step at or before an instant. -/
def align (instant : Int) (step : Int) : Int := instant - instant % step

theorem align_le {step : Int} (positive : 0 < step) (instant : Int) :
    align instant step ≤ instant := by
  have := Int.emod_nonneg instant (Int.ne_of_gt positive)
  unfold align
  omega

/-- The grid from the last multiple of `step` at or before `start`, up to and without `stop`. -/
def cover (start stop : Int) (step : Int) : Except QueryFault Grid :=
  if positive : 0 < step then
    if later : start < stop then
      if align start step < Instant.least ∨ Instant.greatest < stop - align start step then
        .error (.rangeTooWide start stop)
      else
        .ok ⟨align start step, stop, step, positive,
          Int.lt_of_le_of_lt (align_le positive start) later⟩
    else .error (.endNotAfterStart start stop)
  else .error (.stepNotPositive step)

def stepSeconds {V : Type} [Scalar V] (grid : Grid) : V :=
  Scalar.ofNat grid.step.toNat / Scalar.ofNat 1000

/-- Number of steps; the last one may be cut short by the end of the range. -/
def size (grid : Grid) : Nat := ((grid.stop - grid.start + grid.step - 1) / grid.step).toNat

def boundary (grid : Grid) (position : Nat) : Int := grid.start + position * grid.step

def boundaries (grid : Grid) : List Int := (List.range grid.size).map grid.boundary

/-- The boundary of the step that an instant falls into. -/
def stepOf? (grid : Grid) (instant : Int) : Option Int :=
  if instant < grid.start ∨ grid.stop ≤ instant then none
  else some (instant - (instant - grid.start) % grid.step)

end Grid

end SeriesQuery
