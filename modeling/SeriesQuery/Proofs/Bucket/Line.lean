import Mathlib.Algebra.Order.Field.Basic
import Mathlib.Algebra.Order.Ring.Rat
import Mathlib.Tactic.FieldSimp
import Mathlib.Tactic.Linarith
import Mathlib.Tactic.Ring
/-!
The line through two points. Counts are read off it at a bound, and bounds, with the coordinates
exchanged, at a count.
-/
namespace SeriesQuery

/-- The height at a place of the line through two points. -/
def line (first second : Rat × Rat) (place : Rat) : Rat :=
  first.2 + (second.2 - first.2) * (place - first.1) / (second.1 - first.1)

variable (first second : Rat × Rat) (apart : first.1 < second.1)

theorem line_first : line first second first.1 = first.2 := by
  simp [line]

include apart

theorem line_second : line first second second.1 = second.2 := by
  have width : second.1 - first.1 ≠ 0 := by linarith
  unfold line
  rw [mul_div_assoc, div_self width]
  ring

theorem line_mono (rising : first.2 ≤ second.2) {place other : Rat} (le : place ≤ other) :
    line first second place ≤ line first second other := by
  have width : 0 < second.1 - first.1 := by linarith
  have height : 0 ≤ second.2 - first.2 := by linarith
  have further : (second.2 - first.2) * (place - first.1) ≤
      (second.2 - first.2) * (other - first.1) :=
    mul_le_mul_of_nonneg_left (by linarith) height
  exact add_le_add_right (div_le_div_of_nonneg_right further width.le) _

theorem line_mem (rising : first.2 ≤ second.2) {place : Rat} (from' : first.1 ≤ place)
    (until' : place ≤ second.1) :
    first.2 ≤ line first second place ∧ line first second place ≤ second.2 := by
  have low := line_mono first second apart rising from'
  have high := line_mono first second apart rising until'
  rw [line_first] at low
  rw [line_second first second apart] at high
  exact ⟨low, high⟩

/-- Exchanging the coordinates undoes the line. -/
theorem line_swap (steep : first.2 < second.2) (place : Rat) :
    line first.swap second.swap (line first second place) = place := by
  have width : second.1 - first.1 ≠ 0 := by linarith
  have height : second.2 - first.2 ≠ 0 := by linarith
  simp only [line, Prod.fst_swap, Prod.snd_swap]
  field_simp
  ring

end SeriesQuery
