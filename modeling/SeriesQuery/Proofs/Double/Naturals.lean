import SeriesQuery.Proofs.Double.Line
/-!
Natural numbers as doubles. Those of at most 53 bits are held exactly, and so is what is left of a
double when its whole part is taken away.
-/
namespace SeriesQuery.Double

open Float.Model UnpackedFloat

section Numbers

variable {number : Nat}

theorem storable_natural (small : number < 2 ^ 53) : Storable number :=
  ⟨number, 0, by rw [abs_of_nonneg] <;> omega, by decide, by simp⟩

/-- What is left of a number without its whole part has no more places than the number. -/
theorem Storable.fraction {whole : Rat} (storable : Storable whole) (low : number ≤ whole)
    (high : whole < number + 1) : Storable (whole - number) := by
  rcases storable with ⟨mantissa, exponent, short, deep, rfl⟩
  rcases le_or_gt 0 exponent with flat | below
  · rcases exists_multiple flat with ⟨count, same⟩
    rw [same, zpow_zero, mul_one] at low high ⊢
    have low : (number : Int) ≤ count := by exact_mod_cast low
    have high : count < number + 1 := by exact_mod_cast high
    obtain rfl : count = number := by omega
    rw [Int.cast_natCast, sub_self]
    exact .zero
  · obtain ⟨places, rfl⟩ : ∃ places : Nat, exponent = -places := ⟨exponent.natAbs, by omega⟩
    have power : (0 : Rat) < 2 ^ places := by positivity
    have split : (2 : Rat) ^ (-places : Int) = (2 ^ places)⁻¹ := by rw [zpow_neg, zpow_natCast]
    rw [split, ← div_eq_mul_inv, le_div_iff₀ power] at low
    have within : (number * 2 ^ places : Int) ≤ mantissa := by exact_mod_cast low
    have lead : 0 ≤ (number * 2 ^ places : Int) := by positivity
    refine ⟨mantissa - number * 2 ^ places, -places, ?_, deep, ?_⟩
    · rw [abs_of_nonneg (by omega)]
      have := le_abs_self mantissa
      omega
    · rw [split]
      push_cast
      field_simp

theorem toFloat_exact {word : UInt64} (small : word.toNat < 2 ^ 53) :
    word.toFloat.isFinite = true ∧ amount (value word.toFloat) = word.toNat := by
  have rounded := rounded_normalize word.toNat (by decide : -1074 ≤ (0 : Int)) .positive
  have width : ((0 : Int) + 1074).toNat = 1074 := rfl
  rw [width] at rounded
  have finite := rounded.finite.mpr (by
    have size : (word.toNat * 2 ^ 1074 : Int) = (word.toNat * 2 ^ 1074 : Nat) := by
      rw [Nat.cast_mul, Nat.cast_pow, Nat.cast_ofNat]
    rw [size, Int.natAbs_natCast]
    exact @lt_limit _ 1074 1074 small (by decide))
  have nearest := rounded.nearest finite
  rw [Int.cast_mul, Int.cast_pow, Int.cast_natCast, Int.cast_ofNat,
    mul_div_cancel_right₀ _ (by positivity)] at nearest
  exact ⟨finite, nearest.eq (storable_natural small)⟩

theorem ofNat_eq (small : number < 2 ^ 53) : Float.ofNat number = number.toUInt64.toFloat * 1 := by
  have unit : Float.exactlyRepresentablePowersOfTen[0] = 1 := rfl
  change Float.ofScientific number false 0 = _
  rw [Float.ofScientific, dif_pos ⟨small, by decide⟩, ← unit]
  rfl

theorem ofNat_exact (small : number < 2 ^ 53) :
    (Float.ofNat number).isFinite = true ∧ amount (value (Float.ofNat number)) = number := by
  have same : number.toUInt64.toNat = number := by
    rw [Nat.toUInt64, UInt64.toNat_ofNat', Nat.mod_eq_of_lt (by omega)]
  rcases toFloat_exact (same.symm ▸ small) with ⟨finite, exact⟩
  rw [same] at exact
  have nonneg : 0 ≤ number.toUInt64.toFloat :=
    (nonneg_iff finite).mpr (exact ▸ Nat.cast_nonneg number)
  have bounded : (number.toUInt64.toFloat * 1).isFinite = true := by
    rw [double_mul_comm]
    exact (part_mul (by decide) (by decide) finite nonneg).1
  have nearest := nearest_mul finite rfl bounded
  rw [exact, amount_one, mul_one] at nearest
  rw [ofNat_eq small]
  exact ⟨bounded, nearest.eq (storable_natural small)⟩

theorem ofNat_nonneg (small : number < 2 ^ 53) : 0 ≤ Float.ofNat number := by
  rcases ofNat_exact small with ⟨finite, exact⟩
  exact (nonneg_iff finite).mpr (exact ▸ Nat.cast_nonneg number)

end Numbers

section Floor

variable {double : Float}

theorem power_split (exponent : Int) :
    (2 : Rat) ^ exponent = 2 ^ exponent.toNat / 2 ^ (-exponent).toNat := by
  rw [← zpow_natCast, ← zpow_natCast, ← zpow_sub₀ two_ne_zero]
  congr 1
  omega

theorem roundToInt_eq (mantissa : Nat) (exponent : Int) :
    roundToInt .positive mantissa exponent =
      ((mantissa * 2 ^ exponent.toNat / 2 ^ (-exponent).toNat : Nat) : Int) := by
  have unfolded : roundToInt .positive mantissa exponent =
      (ExtendedMantissa.ofMantissaAndAccuracy (mantissa <<< (exponent - 0).toNat) .exact >>>
        (0 - (exponent - (exponent - 0).toNat)).toNat).mantissa := rfl
  have right : (0 - (exponent - exponent.toNat)).toNat = (-exponent).toNat := by omega
  rw [unfolded, mantissa_shiftRight, Int.sub_zero, right, Nat.shiftLeft_eq]
  rfl

theorem floor_eq {last : Nat} (finite : double.isFinite = true)
    (nonneg : 0 ≤ amount (value double)) (most : amount (value double) ≤ last)
    (small : last < 2 ^ 64) :
    double.toUInt64.toNat = ⌊amount (value double)⌋₊ := by
  change (UInt64.ofNatClamp ((value double).toInt 0 (UInt64.size - 1)).toNat).toNat = _
  have truncated : ((value double).toInt 0 (UInt64.size - 1)).toNat = ⌊amount (value double)⌋₊ := by
    have canonical := (denotes double).canonical
    change (value double).isFinite = true at finite
    generalize value double = held at *
    cases canonical with
    | notANumber => cases finite
    | infinity sign => cases finite
    | zero sign =>
        rw [amount_zero, Nat.floor_zero]
        rfl
    | finite sign mantissa exponent positive short low =>
        have filled : (0 : Rat) < mantissa := by exact_mod_cast positive
        rw [amount_finite sign positive low] at nonneg ⊢
        cases sign with
        | negative =>
            rw [Sign.apply, Int.cast_neg, Int.cast_natCast, neg_mul] at nonneg
            linarith [mul_pos filled (power_pos exponent)]
        | positive =>
            change (roundToInt .positive mantissa exponent).toNat = _
            have whole := Nat.floor_div_eq_div (K := Rat) (mantissa * 2 ^ exponent.toNat)
              (2 ^ (-exponent).toNat)
            push_cast at whole
            rw [roundToInt_eq, Int.toNat_natCast, Sign.apply, Int.cast_natCast, power_split,
              ← mul_div_assoc, whole]
  rw [truncated, UInt64.toNat_ofNatClamp_of_lt ((Nat.floor_le_of_le most).trans_lt small)]

end Floor

end SeriesQuery.Double
