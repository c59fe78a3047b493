import SeriesQuery.Proofs.Double.Arithmetic
/-!
Reading a number off the line between two doubles. Where the difference of the two is finite the
result lies between them, and grows with the part of the way that is gone.
-/
namespace SeriesQuery.Double

open Float.Model UnpackedFloat

section Equal

/-- Finite values that stand for the same number differ in the sign of zero only. -/
theorem Canonical.eq_or_zero {a b : UnpackedFloat} (first : Canonical a) (second : Canonical b)
    (finite : a.isFinite = true) (finite' : b.isFinite = true) (same : amount a = amount b) :
    a = b ∨ amount a = 0 := by
  have equal := (amount_eq_iff first second finite finite').mp same
  cases first with
  | notANumber => cases finite
  | infinity sign => cases finite
  | zero sign => exact .inr (amount_zero sign)
  | finite sign mantissa exponent positive short low high full =>
      cases second with
      | notANumber => cases finite'
      | infinity sign => cases finite'
      | zero other => exact .inr (same.trans (amount_zero other))
      | finite other mantissa' exponent' positive' short' low' high' full' =>
          left
          cases sign <;> cases other <;> simp only [place, Sign.apply] at equal
          · obtain ⟨rfl, rfl⟩ : mantissa = mantissa' ∧ exponent = exponent' := by omega
            rfl
          · omega
          · omega
          · obtain ⟨rfl, rfl⟩ : mantissa = mantissa' ∧ exponent = exponent' := by omega
            rfl

end Equal

section Finite

theorem isFinite_of_packed {value : UnpackedFloat} (finite : (packed value).isFinite = true) :
    value.isFinite = true := by
  cases value with
  | notANumber =>
      have undefined := isNaN_packed .notANumber
      rw [((canonical_packed _).isFinite_iff.mp finite).1] at undefined
      cases undefined
  | infinity sign =>
      rw [packed_infinity] at finite
      cases finite
  | _ => rfl

/-- What is not finite never becomes so again. -/
theorem finite_of_add {a b : Float} (finite : (a + b).isFinite = true) :
    a.isFinite = true ∧ b.isFinite = true := by
  change (packed (UnpackedFloat.add .binary64 (value a) (value b))).isFinite = true at finite
  replace finite := isFinite_of_packed finite
  change (value a).isFinite = true ∧ (value b).isFinite = true
  generalize value a = first at *
  generalize value b = second at *
  cases first with
  | infinity sign =>
      cases second with
      | infinity other => cases sign <;> cases other <;> cases finite
      | _ => cases finite
  | _ => cases second <;> first | exact ⟨rfl, rfl⟩ | cases finite

theorem finite_of_mul {a b : Float} (finite : (a * b).isFinite = true) :
    a.isFinite = true ∧ b.isFinite = true := by
  change (packed (UnpackedFloat.mul .binary64 (value a) (value b))).isFinite = true at finite
  replace finite := isFinite_of_packed finite
  change (value a).isFinite = true ∧ (value b).isFinite = true
  generalize value a = first at *
  generalize value b = second at *
  cases first <;> cases second <;> first | exact ⟨rfl, rfl⟩ | cases finite

theorem double_mul_comm (a b : Float) : a * b = b * a := by
  have same : UnpackedFloat.mul .binary64 (value a) (value b) =
      UnpackedFloat.mul .binary64 (value b) (value a) := by
    generalize value a = first
    generalize value b = second
    have signs (sign other : Sign) : sign * other = other * sign := by
      cases sign <;> cases other <;> rfl
    cases first <;> cases second <;>
      simp only [UnpackedFloat.mul, signs, Nat.mul_comm, Int.add_comm]
  exact congrArg (fun result => Float.ofModel (Float.Model.pack result)) same

end Finite

section Doubles

variable {a b c low high part : Float}

theorem le_iff_amount (finite : a.isFinite = true) (finite' : b.isFinite = true) :
    a ≤ b ↔ amount (value a) ≤ amount (value b) := by
  rw [amount_le_iff (denotes a).canonical (denotes b).canonical finite finite', le_iff]
  exact and_iff_right ⟨isNaN_of_isFinite finite, isNaN_of_isFinite finite'⟩

theorem amount_nought : amount (value 0) = 0 := amount_zero .positive

theorem amount_one : amount (value 1) = 1 := by
  have one : value 1 = .finite .positive (2 ^ 52) (-52) (by decide) := rfl
  rw [one, amount_finite _ _ (by decide)]
  norm_num [Sign.apply]

theorem nonneg_iff (finite : a.isFinite = true) : 0 ≤ a ↔ 0 ≤ amount (value a) := by
  rw [le_iff_amount rfl finite, amount_nought]

theorem le_one_iff (finite : a.isFinite = true) : a ≤ 1 ↔ amount (value a) ≤ 1 := by
  rw [le_iff_amount finite rfl, amount_one]

theorem nearest_add (finite : a.isFinite = true) (finite' : b.isFinite = true)
    (bounded : (a + b).isFinite = true) :
    Nearest (amount (value a) + amount (value b)) (amount (value (a + b))) := by
  have rounded := rounded_add (denotes a).canonical (denotes b).canonical finite finite'
  have nearest := rounded.nearest bounded
  rwa [Int.cast_add, add_div] at nearest

theorem nearest_sub (finite : a.isFinite = true) (finite' : b.isFinite = true)
    (bounded : (a - b).isFinite = true) :
    Nearest (amount (value a) - amount (value b)) (amount (value (a - b))) := by
  have nearest := (rounded_value_sub finite finite').nearest bounded
  rwa [Int.cast_sub, sub_div] at nearest

theorem nearest_mul (finite : a.isFinite = true) (finite' : b.isFinite = true)
    (bounded : (a * b).isFinite = true) :
    Nearest (amount (value a) * amount (value b)) (amount (value (a * b))) := by
  have nearest := (rounded_value_mul finite finite').nearest bounded
  have width : (2 : Rat) ^ 2148 = 2 ^ 1074 * 2 ^ 1074 := pow_add 2 1074 1074
  rwa [Int.cast_mul, width, mul_div_mul_comm] at nearest

theorem storable_value (double : Float) : Storable (amount (value double)) :=
  (denotes double).canonical.storable

theorem amount_add_le (finite : a.isFinite = true) (finite' : b.isFinite = true)
    (finite'' : c.isFinite = true) (bounded : (a + b).isFinite = true)
    (bounded' : (a + c).isFinite = true) (le : amount (value b) ≤ amount (value c)) :
    amount (value (a + b)) ≤ amount (value (a + c)) := by
  have nearest := nearest_add finite finite' bounded
  have nearest' := nearest_add finite finite'' bounded'
  rcases eq_or_lt_of_le le with same | less
  · rcases (denotes b).canonical.eq_or_zero (denotes c).canonical finite' finite'' same with
      equal | zero
    · change amount (packed (UnpackedFloat.add .binary64 (value a) (value b))) ≤
        amount (packed (UnpackedFloat.add .binary64 (value a) (value c)))
      rw [equal]
    · rw [zero, add_zero] at nearest
      rw [← same, zero, add_zero] at nearest'
      rw [nearest.eq (storable_value a), nearest'.eq (storable_value a)]
  · exact nearest.mono nearest' (add_lt_add_right less _)

theorem amount_mul_le (finite : a.isFinite = true) (finite' : b.isFinite = true)
    (finite'' : c.isFinite = true) (bounded : (a * b).isFinite = true)
    (bounded' : (a * c).isFinite = true) (nonneg : 0 ≤ amount (value a))
    (le : amount (value b) ≤ amount (value c)) :
    amount (value (a * b)) ≤ amount (value (a * c)) := by
  have nearest := nearest_mul finite finite' bounded
  have nearest' := nearest_mul finite finite'' bounded'
  rcases eq_or_lt_of_le nonneg with zero | positive
  · rw [← zero, zero_mul] at nearest nearest'
    rw [nearest.eq .zero, nearest'.eq .zero]
  · rcases eq_or_lt_of_le le with same | less
    · rcases (denotes b).canonical.eq_or_zero (denotes c).canonical finite' finite'' same with
        equal | zero
      · change amount (packed (UnpackedFloat.mul .binary64 (value a) (value b))) ≤
          amount (packed (UnpackedFloat.mul .binary64 (value a) (value c)))
        rw [equal]
      · rw [zero, mul_zero] at nearest
        rw [← same, zero, mul_zero] at nearest'
        rw [nearest.eq .zero, nearest'.eq .zero]
    · exact nearest.mono nearest' (mul_lt_mul_of_pos_left less positive)

end Doubles

section Line

variable {low high part part' : Float}

/-- A proper part of the way between two doubles that have a difference. -/
structure Between (low high part : Float) : Prop where
  low_finite : low.isFinite = true
  high_finite : high.isFinite = true
  part_finite : part.isFinite = true
  ordered : amount (value low) ≤ amount (value high)
  wide : (high - low).isFinite = true
  nonneg : 0 ≤ amount (value part)
  proper : amount (value part) < 1

namespace Between

theorem difference (between : Between low high part) :
    Nearest (amount (value high) - amount (value low)) (amount (value (high - low))) :=
  nearest_sub between.high_finite between.low_finite between.wide

theorem gap_nonneg (between : Between low high part) : 0 ≤ amount (value (high - low)) :=
  between.difference.ge .zero (sub_nonneg_of_le between.ordered)

theorem share_finite (between : Between low high part) :
    ((high - low) * part).isFinite = true := by
  rw [double_mul_comm]
  exact (part_mul ((nonneg_iff between.part_finite).mpr between.nonneg)
    ((le_one_iff between.part_finite).mpr between.proper.le) between.wide
    ((nonneg_iff between.wide).mpr between.gap_nonneg)).1

theorem share (between : Between low high part) :
    Nearest (amount (value (high - low)) * amount (value part))
      (amount (value ((high - low) * part))) :=
  nearest_mul between.wide between.part_finite between.share_finite

theorem finite (between : Between low high part) :
    (low + (high - low) * part).isFinite = true := by
  have power : (0 : Rat) < 2 ^ 1074 := by positivity
  have share_nonneg := between.share.ge .zero (mul_nonneg between.gap_nonneg between.nonneg)
  have share_le := between.difference.share_le (storable_value low) (storable_value high)
    between.ordered (storable_value part) between.proper between.share
  rw [amount, le_div_iff₀ power, zero_mul] at share_nonneg
  rw [amount, amount, amount, ← sub_div, div_le_div_iff_of_pos_right power] at share_le
  have above : 0 ≤ units (value ((high - low) * part)) := by exact_mod_cast share_nonneg
  have below : units (value ((high - low) * part)) ≤ units (value high) - units (value low) := by
    exact_mod_cast share_le
  have short := natAbs_units_lt (denotes low).canonical between.low_finite
  have short' := natAbs_units_lt (denotes high).canonical between.high_finite
  exact (rounded_add (denotes low).canonical (denotes _).canonical between.low_finite
    between.share_finite).finite.mpr (by omega)

/-- Where the difference is finite the result lies between the two doubles. -/
theorem le (between : Between low high part) :
    low ≤ low + (high - low) * part ∧ low + (high - low) * part ≤ high := by
  rw [le_iff_amount between.low_finite between.finite,
    le_iff_amount between.finite between.high_finite]
  exact between_of_nearest (storable_value low) (storable_value high) between.ordered
    between.difference (storable_value part) between.nonneg between.proper between.share
    (nearest_add between.low_finite between.share_finite between.finite)

theorem mono (between : Between low high part) (between' : Between low high part')
    (le : amount (value part) ≤ amount (value part')) :
    low + (high - low) * part ≤ low + (high - low) * part' := by
  rw [le_iff_amount between.finite between'.finite]
  exact amount_add_le between.low_finite between.share_finite between'.share_finite
    between.finite between'.finite
    (amount_mul_le between.wide between.part_finite between'.part_finite between.share_finite
      between'.share_finite between.gap_nonneg le)

end Between

end Line

end SeriesQuery.Double
