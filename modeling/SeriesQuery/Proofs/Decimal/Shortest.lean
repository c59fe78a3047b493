import Mathlib.Algebra.Order.Field.Power
import Mathlib.Data.List.DropRight
import Mathlib.Data.Rat.Cast.Order
import SeriesQuery.Decimal.Shortest
import SeriesQuery.Proofs.Decimal.Digits
import SeriesQuery.Proofs.Double.Words
/-!
The digits of a double. Main statement: the shortest digits of a finite double other than zero are
digits indeed, there is at least one of them, and they do not start with a zero.
-/
namespace SeriesQuery.Decimal

/-! Scaled numbers -/

theorem zpow_eq_div (base : Rat) (exponent : Int) :
    base ^ exponent = base ^ exponent.toNat / base ^ (-exponent).toNat := by
  rcases Int.le_total 0 exponent with nonneg | nonpos
  · rw [Int.toNat_of_nonpos (Int.neg_nonpos_of_nonneg nonneg), pow_zero, div_one,
      ← zpow_natCast, Int.toNat_of_nonneg nonneg]
  · rw [Int.toNat_of_nonpos nonpos, pow_zero, one_div, ← zpow_natCast,
      Int.toNat_of_nonneg (Int.neg_nonneg_of_nonpos nonpos), zpow_neg, inv_inv]

/-- Whether a power of ten is at most a scaled number. -/
def Reaches (number : Nat) (power exponent : Int) : Prop :=
  (10 : Rat) ^ exponent ≤ number * (2 : Rat) ^ power

theorem reaches_iff {number : Nat} {power exponent : Int} :
    Reaches number power exponent ↔
      Nat.pow 10 exponent.toNat * Nat.pow 2 (-power).toNat ≤
        number * Nat.pow 2 power.toNat * Nat.pow 10 (-exponent).toNat := by
  rw [Reaches, zpow_eq_div 10, zpow_eq_div 2, ← mul_div_assoc,
    div_le_div_iff₀ (by positivity) (by positivity)]
  exact_mod_cast Iff.rfl

theorem Reaches.mono {number : Nat} {power low high : Int} (reaches : Reaches number power high)
    (below : low ≤ high) : Reaches number power low :=
  le_trans (zpow_le_zpow_right₀ (by norm_num) below) reaches

theorem floorScaled_pos {number : Nat} {power exponent : Int}
    (reaches : Reaches number power exponent) : 0 < floorScaled number power exponent := by
  have divisor : 0 < Nat.pow 10 exponent.toNat * Nat.pow 2 (-power).toNat :=
    Nat.mul_pos (Nat.pow_pos (by decide)) (Nat.pow_pos (by decide))
  exact Nat.div_pos (reaches_iff.mp reaches) divisor

theorem reaches_of_compareScaled {number : Nat} {power exponent : Int}
    (large : compareScaled number power 1 exponent ≠ .lt) : Reaches number power exponent := by
  rw [compareScaled, Ne, Nat.compare_eq_lt, Nat.not_lt, Nat.one_mul] at large
  exact reaches_iff.mpr large

theorem compareScaled_zero {number : Nat} (positive : 0 < number) (power exponent : Int) :
    compareScaled number power 0 exponent = .gt := by
  rw [compareScaled, Nat.zero_mul, Nat.zero_mul]
  exact Nat.compare_eq_gt.mpr
    (Nat.mul_pos (Nat.mul_pos positive (Nat.pow_pos (by decide))) (Nat.pow_pos (by decide)))

/-- Ten bits are more than three digits, and thirteen bits are less than four. -/
theorem pow_ten_le_pow_two {bits exponent : Int} (low : -2000 ≤ bits) (high : bits ≤ 2000)
    (below : exponent ≤ bits * 30103 / 100000 - 18) : (10 : Rat) ^ exponent ≤ 2 ^ bits := by
  rcases Int.le_total 0 bits with nonneg | nonpos
  · obtain ⟨thirds, above, fits⟩ : ∃ thirds : Nat, exponent ≤ (3 * thirds : Nat) ∧
        ((10 * thirds : Nat) : Int) ≤ bits := ⟨((exponent + 2) / 3).toNat, by omega, by omega⟩
    calc
      (10 : Rat) ^ exponent ≤ 10 ^ ((3 * thirds : Nat) : Int) :=
        zpow_le_zpow_right₀ (by norm_num) above
      _ = (10 ^ 3) ^ thirds := by rw [zpow_natCast, pow_mul]
      _ ≤ (2 ^ 10) ^ thirds := pow_le_pow_left₀ (by norm_num) (by norm_num) thirds
      _ = 2 ^ ((10 * thirds : Nat) : Int) := by rw [zpow_natCast, pow_mul]
      _ ≤ 2 ^ bits := zpow_le_zpow_right₀ (by norm_num) fits
  · obtain ⟨fourths, above, fits⟩ : ∃ fourths : Nat, exponent ≤ -(4 * fourths : Nat) ∧
        -((13 * fourths : Nat) : Int) ≤ bits := ⟨((12 - bits) / 13).toNat, by omega, by omega⟩
    calc
      (10 : Rat) ^ exponent ≤ 10 ^ (-((4 * fourths : Nat) : Int)) :=
        zpow_le_zpow_right₀ (by norm_num) above
      _ = ((10 ^ 4) ^ fourths)⁻¹ := by rw [zpow_neg, zpow_natCast, pow_mul]
      _ ≤ ((2 ^ 13) ^ fourths)⁻¹ :=
        inv_anti₀ (by positivity) (pow_le_pow_left₀ (by norm_num) (by norm_num) fourths)
      _ = 2 ^ (-((13 * fourths : Nat) : Int)) := by rw [zpow_neg, zpow_natCast, pow_mul]
      _ ≤ 2 ^ bits := zpow_le_zpow_right₀ (by norm_num) fits

/-! The search for digits -/

namespace Binary

/-- Magnitudes of finite doubles other than zero. -/
structure Proper (b : Binary) : Prop where
  positive : 0 < b.significand
  short : b.significand < 2 ^ 53
  low : -1074 ≤ b.power
  high : b.power ≤ 972

variable {b : Binary}

theorem leadingExponent_cases (start : Int) (steps : Nat) :
    b.leadingExponent start steps = start ∨
      Reaches b.significand b.power (b.leadingExponent start steps) := by
  induction steps generalizing start with
  | zero => exact .inl rfl
  | succ steps ih =>
      rw [leadingExponent]
      split
      · exact .inl rfl
      · rename_i large
        rcases ih (start + 1) with same | reaches
        · rw [same]
          exact .inr (reaches_of_compareScaled fun less => large (by rw [less]; rfl))
        · exact .inr reaches

theorem Proper.log2_lt (proper : b.Proper) : b.significand.log2 < 53 :=
  (Nat.log2_lt (Nat.ne_of_gt proper.positive)).mpr proper.short

/-- The digits of the last attempt do not run out. -/
theorem Proper.reaches_leading (proper : b.Proper) {guess : Int}
    (guessed : guess = ((b.significand.log2 : Int) + b.power) * 30103 / 100000 - 1) (steps : Nat) :
    Reaches b.significand b.power (b.leadingExponent guess steps - 17) := by
  rcases leadingExponent_cases guess steps with same | reaches
  · have short := proper.log2_lt
    have low := proper.low
    have high := proper.high
    have size : (2 : Rat) ^ ((b.significand.log2 : Int) + b.power) ≤
        b.significand * 2 ^ b.power := by
      rw [zpow_add₀ (by norm_num), zpow_natCast]
      refine mul_le_mul_of_nonneg_right ?_ (by positivity)
      exact_mod_cast Nat.log2_self_le (Nat.ne_of_gt proper.positive)
    refine le_trans (pow_ten_le_pow_two ?_ ?_ ?_) size
    · omega
    · omega
    · rw [same, guessed]
      omega
  · exact reaches.mono (by omega)

theorem pos_of_rounds {count : Nat} {exponent : Int} (positive : 0 < b.significand)
    (rounds : b.rounds count exponent = true) : 0 < count := by
  refine Nat.pos_of_ne_zero fun zero => ?_
  subst zero
  have below : 0 < 4 * b.significand - if b.halfGapBelow then 1 else 2 := by
    split <;> omega
  rw [Binary.rounds, compareScaled_zero below] at rounds
  split at rounds <;> simp at rounds

theorem pos_of_onGrid {count : Nat} {exponent : Int} (positive : 0 < b.significand)
    (found : b.onGrid exponent = some count) : 0 < count := by
  unfold onGrid at found
  dsimp only at found
  split at found
  · rename_i below above
    have := pos_of_rounds positive below
    split at found
    · cases found
      exact this
    · cases found
      exact Nat.succ_pos _
    · split at found <;> cases found <;> omega
  · rename_i below above
    cases found
    exact pos_of_rounds positive below
  · cases found
    exact Nat.succ_pos _
  · cases found

theorem shortestFrom_pos (positive : 0 < b.significand) {leading : Int} {count : Nat} (steps : Nat)
    (last : Reaches b.significand b.power (leading + 1 - (count + steps : Nat))) :
    0 < (b.shortestFrom leading count steps).1 := by
  induction steps generalizing count with
  | zero => exact floorScaled_pos last
  | succ steps ih =>
      rw [shortestFrom]
      split
      · rename_i found
        exact pos_of_onGrid positive found
      · exact ih (by rwa [Nat.add_assoc, Nat.add_comm 1])

theorem Proper.shortest_pos (proper : b.Proper) : 0 < b.shortest.1 := by
  refine shortestFrom_pos proper.positive 17 ?_
  have reaches := proper.reaches_leading rfl 4
  rwa [show ∀ leading : Int, leading + 1 - ((1 + 17 : Nat) : Int) = leading - 17 by omega]

end Binary

theorem size_ne_zero {value : Float} (number : value.isNaN = false)
    (nonzero : (value == 0) = false) : value.toBits.toNat % signBit ≠ 0 := by
  intro zero
  have small : value.toBits.toNat < 2 ^ 64 := value.toBits.toNat_lt
  have place : Double.place (Double.value value) = Double.place (Double.value 0) := by
    have none : Double.place (Double.value 0) = 0 := rfl
    rw [(Double.denotes value).place number, Double.signed, none]
    unfold signBit at zero
    split <;> omega
  have equal : (value == 0) = true := Double.beq_iff.mpr ⟨⟨number, by decide⟩, place⟩
  rw [nonzero] at equal
  cases equal

theorem proper_binary {value : Float} (finite : value.isFinite = true)
    (nonzero : (value == 0) = false) : (binary value).Proper := by
  have number := ((Double.denotes value).canonical.isFinite_iff.mp finite).1
  have filled := size_ne_zero number nonzero
  have small : value.toBits.toNat % signBit < signBit := Nat.mod_lt _ (by decide)
  unfold signBit at filled small
  unfold binary signBit leadingBit
  dsimp only
  split
  · constructor <;> dsimp only <;> omega
  · constructor <;> dsimp only <;> omega

/-- Digits of a number that is not zero. -/
structure Figures (digits : List Char) : Prop where
  ne_nil : digits ≠ []
  known : ∀ c ∈ digits, isDigit c = true
  head : digits.head? ≠ some '0'

theorem figures_toDigits {number : Nat} (positive : 0 < number) :
    Figures (Nat.toDigits 10 number) :=
  ⟨Nat.toDigits_ne_nil, fun _ => isDigit_of_mem_toDigits, head_toDigits positive⟩

theorem Figures.rdropWhile {digits : List Char} (figures : Figures digits) :
    Figures (digits.rdropWhile (· = '0')) := by
  obtain ⟨zeros, split⟩ := List.rdropWhile_prefix (· = '0') digits
  refine ⟨?_, fun c member => figures.known c (split ▸ List.mem_append_left _ member), ?_⟩
  · intro none
    rw [List.rdropWhile_eq_nil_iff] at none
    have zero := of_decide_eq_true (none _ (List.head_mem figures.ne_nil))
    exact figures.head ((List.head?_eq_some_head figures.ne_nil).trans (congrArg some zero))
  · intro zero
    refine figures.head ?_
    rw [← split, List.head?_append, zero]
    rfl

theorem figures_shortestDigits {value : Float} (finite : value.isFinite = true)
    (nonzero : (value == 0) = false) : Figures (shortestDigits value).digits := by
  have positive := (proper_binary finite nonzero).shortest_pos
  exact (figures_toDigits positive).rdropWhile

end SeriesQuery.Decimal
