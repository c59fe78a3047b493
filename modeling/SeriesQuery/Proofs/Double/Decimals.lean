import SeriesQuery.Proofs.Double.Arithmetic
/-!
Doubles of decimals. Whatever its digits and its exponent, the double nearest to a decimal is a
number, if perhaps an infinity.
-/
namespace SeriesQuery.Double

open Float.Model UnpackedFloat

theorem isNaN_ofUInt64 (word : UInt64) : word.toFloat.isNaN = false := by
  change (packed (UnpackedFloat.ofUInt64 .binary64 word)).isNaN = false
  rw [isNaN_packed]
  exact isNaN_normalize ..

theorem positive_powerOfTen :
    ∀ power ∈ Float.exactlyRepresentablePowersOfTen, power.isFinite = true ∧ 0 < power := by
  decide

/-- Beyond the powers of ten that doubles hold exactly, one product or quotient is rounded. -/
theorem isNaN_scientific (coefficient : Nat) (exponent : Int) :
    (UnpackedFloat.ofScientific .binary64 coefficient exponent).isNaN = false := by
  rw [UnpackedFloat.ofScientific]
  split
  · rfl
  · split
    · rfl
    · split
      · rfl
      · split
        · exact isNaN_roundWithAccuracy ..
        · exact isNaN_roundWithAccuracy ..

theorem isNaN_ofScientific (coefficient : Nat) (negative : Bool) (exponent : Nat) :
    (Float.ofScientific coefficient negative exponent).isNaN = false := by
  rw [Float.ofScientific]
  split
  · rename_i small
    have held := positive_powerOfTen _ (Array.getElem_mem
      (show exponent < Float.exactlyRepresentablePowersOfTen.size by
        simp [Float.exactlyRepresentablePowersOfTen]; omega))
    dsimp only
    split
    · exact isNaN_div (isNaN_ofUInt64 _) held.1 held.2
    · exact isNaN_mul (isNaN_ofUInt64 _) held.1 held.2
  · dsimp only
    change (packed (UnpackedFloat.ofScientific .binary64 _ _)).isNaN = false
    rw [isNaN_packed]
    exact isNaN_scientific ..

theorem isNaN_neg (double : Float) : (-double).isNaN = double.isNaN := by
  change (packed (UnpackedFloat.neg (value double))).isNaN = (value double).isNaN
  rw [isNaN_packed]
  cases value double <;> rfl

theorem isFinite_neg {double : Float} (finite : double.isFinite = true) :
    (-double).isFinite = true := by
  change (packed (UnpackedFloat.neg (value double))).isFinite = true
  change (value double).isFinite = true at finite
  have canonical := (denotes double).canonical
  revert canonical finite
  generalize value double = unpacked
  intro finite canonical
  cases canonical with
  | notANumber => cases finite
  | infinity sign => cases finite
  | zero sign => cases sign <;> decide
  | finite sign mantissa exponent positive short low high full =>
      exact (place_packed positive short low high full).1

theorem isNaN_magnitude (coefficient : Nat) (exponent : Int) :
    (Decimal.magnitude coefficient exponent).isNaN = false := by
  have zero : (0.0 : Float).isNaN = false := by decide
  have infinity : Decimal.infinity.isNaN = false := by decide
  rw [Decimal.magnitude]
  split
  · exact zero
  · split
    · exact infinity
    · split
      · exact zero
      · exact isNaN_ofScientific ..

theorem isNaN_toFloat (decimal : Decimal) : decimal.toFloat.isNaN = false := by
  rw [Decimal.toFloat]
  split
  · rw [isNaN_neg]
    exact isNaN_magnitude ..
  · exact isNaN_magnitude ..

end SeriesQuery.Double
