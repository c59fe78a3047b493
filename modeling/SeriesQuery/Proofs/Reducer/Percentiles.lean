import Mathlib
import SeriesQuery.Proofs.Double.Ranks
import SeriesQuery.Proofs.Reducer.Interpolation
/-!
Percentiles of the values at one step. Main statement: they are read off inside the list, between
two neighbours of it, grow with the percentage from the least value to the greatest, and do not
depend on the order of the values. With nothing rounded this holds of all finite values, in doubles
of those whose neighbours have a finite difference.
-/
namespace SeriesQuery

open SpaceReducer

namespace Exact

theorem rank_eq (last percent : Nat) :
    rank Exact last percent = finite (percent / 100 * last : Rat) := by
  have hundred : ((100 : Nat) : Rat) ≠ 0 := by norm_num
  change finite percent / finite (100 : Nat) * finite last = _
  rw [finite_div hundred, finite_mul]
  norm_num

theorem lower_eq {number : Rat} : lower (finite number) = ⌊number⌋.toNat := rfl

/-- Ranks are rounded down and up to whole positions. -/
theorem positions_rank (last percent : Nat) :
    lower (rank Exact last percent) = percent * last / 100 ∧
      upper (rank Exact last percent) = (percent * last + 99) / 100 := by
  have exact : rank Exact last percent = finite (((percent * last : Nat) : Rat) / (100 : Nat)) := by
    rw [rank_eq]
    push_cast
    ring_nf
  have below : lower (rank Exact last percent) = percent * last / 100 := by
    rw [exact, lower_eq, Int.floor_toNat, Nat.floor_div_eq_div]
  refine ⟨below, ?_⟩
  have passed : (Scalar.ofNat (percent * last / 100) : Exact) < rank Exact last percent ↔
      percent * last / 100 * 100 < percent * last := by
    have hundred : (0 : Rat) < (100 : Nat) := by norm_num
    rw [exact]
    refine finite_lt_iff.trans ((lt_div_iff₀ hundred).trans ?_)
    exact_mod_cast Iff.rfl
  rw [upper, below]
  simp only [passed]
  split <;> omega

theorem within_iff {last : Nat} {reached : Exact} :
    Scalar.Within last reached ↔ ∃ number : Rat, reached = finite number ∧ 0 ≤ number ∧
      number ≤ last := by
  constructor
  · rintro ⟨low, high⟩
    rcases isFinite_eq_true_iff.mp (Scalar.Ranked.isFinite_of_between rfl rfl low high) with
      ⟨number, rfl⟩
    exact ⟨number, rfl, by simpa using finite_le_iff.mp low, finite_le_iff.mp high⟩
  · rintro ⟨number, rfl, low, high⟩
    exact ⟨finite_le_iff.mpr (by simpa using low), finite_le_iff.mpr high⟩

theorem onLine_eq (low high number : Rat) :
    onLine (finite low) (finite high) (finite number) =
      finite (low + (high - low) * (number - ⌊number⌋.toNat)) := by
  change finite low + (finite high - finite low) * (finite number - finite _) = _
  rw [finite_sub, finite_sub, finite_mul, finite_add]
  rfl

theorem fraction_between {number : Rat} (nonneg : 0 ≤ number) :
    0 ≤ number - ⌊number⌋.toNat ∧ number - ⌊number⌋.toNat ≤ 1 := by
  have whole : ((⌊number⌋.toNat : Int) : Rat) = ⌊number⌋ := by
    rw [Int.toNat_of_nonneg (Int.floor_nonneg.mpr nonneg)]
  rw [Int.cast_natCast] at whole
  have low := Int.floor_le number
  have high := Int.lt_floor_add_one number
  constructor <;> linarith

/-- With nothing rounded ranks and lines are in order, whatever the number of values. -/
theorem interpolates (last : Nat) : Scalar.Interpolates Exact last where
  within_ofNat {number} le := within_iff.mpr ⟨number, rfl, by positivity, by exact_mod_cast le⟩
  floor_ofNat {number} _ := by
    change ⌊(number : Rat)⌋.toNat = number
    rw [Int.floor_natCast, Int.toNat_natCast]
  floor_mono within within' le := by
    rcases within_iff.mp within with ⟨number, rfl, -, -⟩
    rcases within_iff.mp within' with ⟨number', rfl, -, -⟩
    exact Int.toNat_le_toNat (Int.floor_le_floor (finite_le_iff.mp le))
  within_rank {percent} whole := by
    have part : (percent / 100 : Rat) ≤ 1 := by
      rw [div_le_one (by norm_num)]
      exact_mod_cast whole
    rw [rank_eq]
    exact within_iff.mpr ⟨_, rfl, by positivity, mul_le_of_le_one_left (by positivity) part⟩
  rank_mono {percent other} le whole := by
    rw [rank_eq, rank_eq, finite_le_iff]
    gcongr
  rank_least := by
    rw [rank_eq]
    exact finite_le_iff.mpr (by simp)
  rank_greatest := by
    rw [rank_eq]
    exact finite_le_iff.mpr (by norm_num)
  isFinite_sub_self finite := by
    rcases isFinite_eq_true_iff.mp finite with ⟨a, rfl⟩
    rfl
  onLine_iff finite finite' le within := by
    rcases isFinite_eq_true_iff.mp finite with ⟨a, rfl⟩
    rcases isFinite_eq_true_iff.mp finite' with ⟨b, rfl⟩
    rcases within_iff.mp within with ⟨number, rfl, nonneg, -⟩
    rcases fraction_between nonneg with ⟨low, high⟩
    have gap : 0 ≤ b - a := sub_nonneg.mpr (finite_le_iff.mp le)
    have share := mul_nonneg gap low
    have share' := mul_le_of_le_one_right gap high
    rw [onLine_eq, finite_le_iff, finite_le_iff]
    exact iff_of_true ⟨by linarith, by linarith⟩ rfl
  onLine_mono finite finite' le _ within within' same further := by
    rcases isFinite_eq_true_iff.mp finite with ⟨a, rfl⟩
    rcases isFinite_eq_true_iff.mp finite' with ⟨b, rfl⟩
    rcases within_iff.mp within with ⟨number, rfl, -, -⟩
    rcases within_iff.mp within' with ⟨number', rfl, -, -⟩
    have same : ⌊number⌋.toNat = ⌊number'⌋.toNat := same
    have gap : 0 ≤ b - a := sub_nonneg.mpr (finite_le_iff.mp le)
    rw [onLine_eq, onLine_eq, finite_le_iff, same]
    have further := finite_le_iff.mp further
    gcongr

end Exact

namespace SpaceReducer

/-- Lists of doubles are to be no longer than doubles can count. -/
theorem percentiles_between (amounts : List Exact) (values : List Float) :
    (amounts ≠ [] → (∀ amount ∈ amounts, Scalar.isFinite amount = true) →
      Percentiles amounts ∧
        (∀ low ∈ amounts, ∀ high ∈ amounts, Scalar.isFinite (high - low) = true) ∧
        ∀ percent ≤ 100,
          lower (rankIn amounts percent) = percent * (amounts.length - 1) / 100 ∧
            upper (rankIn amounts percent) = (percent * (amounts.length - 1) + 99) / 100) ∧
    (values ≠ [] → (∀ value ∈ values, Scalar.isFinite value = true) → values.length ≤ 2 ^ 53 →
      Percentiles values) := by
  constructor
  · intro filled finite
    refine ⟨percentiles (Exact.interpolates _) filled finite, ?_, fun percent _ =>
      Exact.positions_rank _ percent⟩
    intro low member high member'
    rcases Exact.isFinite_eq_true_iff.mp (finite low member) with ⟨a, rfl⟩
    rcases Exact.isFinite_eq_true_iff.mp (finite high member') with ⟨b, rfl⟩
    rfl
  · intro filled finite short
    have some := List.length_pos_of_ne_nil filled
    exact percentiles (Double.interpolates (by omega)) filled finite

theorem percentiles_between_loads :
    Percentiles ([.finite 3, .finite 1, .finite 2] : List Exact) ∧
      Percentiles ([3, -1, 2.5] : List Float) ∧
      (percentile 75).reduce ([3, -1, 2.5] : List Float) = some 2.75 := by
  have both := percentiles_between [.finite 3, .finite 1, .finite 2] [3, -1, 2.5]
  have held := both.2 (by decide) (by decide) (by decide)
  have sorted : ordered ([-1, 2.5, 3] : List Float) = [-1, 2.5, 3] :=
    List.mergeSort_of_pairwise (by decide)
  have moved : ([-1, 2.5, 3] : List Float).Perm [3, -1, 2.5] := by decide
  refine ⟨(both.1 (by decide) (by decide)).1, held, ?_⟩
  rw [← held.perm 75 moved, reduce_percentile (by decide), sorted]
  decide

/-- Finite values that are further apart than the greatest double. -/
def distant : List Float := [-1.7e308, 1.7e308]

/-- Half way between them, what is read off is beyond both. -/
theorem percentile_beyond :
    (∀ value ∈ distant, Scalar.isFinite value = true) ∧
    (rank Float (distant.length - 1) 50 == 0.5) = true ∧
    ∃ low high value, ReadBetween distant 50 low high value ∧ low < value ∧ high < value ∧
      ∀ other ∈ distant, other < value := by
  have sorted : ordered distant = distant := List.mergeSort_of_pairwise (by decide +kernel)
  refine ⟨by decide +kernel, by decide, -1.7e308, 1.7e308, Scalar.infinity,
    ⟨?_, ?_, ?_⟩, by decide +kernel, by decide +kernel, by decide +kernel⟩
  · rw [sorted]
    decide +kernel
  · rw [sorted]
    decide +kernel
  · rw [reduce_percentile (by decide), sorted]
    decide +kernel

end SpaceReducer

end SeriesQuery
