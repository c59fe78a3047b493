import Mathlib.Tactic.Ring
import SeriesQuery.Proofs.Double.Rounding
/-!
The arithmetic of doubles, as far as signs, overflow and undefined results go. Each difference and
each product of finite doubles is rounded once from the exact result, and so has its sign; results
are undefined only where infinities meet each other or zero.
-/
namespace SeriesQuery.Double

open Float.Model UnpackedFloat

section Exact

theorem natAbs_units_lt {value : UnpackedFloat} (canonical : Canonical value)
    (finite : value.isFinite = true) : (units value).natAbs < limit 1074 := by
  rcases canonical.exists_parts finite with ⟨sign, m, e, short, low, high, -, exact, -⟩
  rw [exact, natAbs_apply]
  exact lt_limit short (by omega)

theorem rounded_of_canonical {value : UnpackedFloat} (canonical : Canonical value)
    (finite : value.isFinite = true) : Rounded 1074 (units value) value := by
  have below : 0 < units value ↔ 0 < place value :=
    units_lt_iff (.zero .positive) canonical rfl finite
  have above : units value < 0 ↔ place value < 0 :=
    units_lt_iff canonical (.zero .positive) finite rfl
  exact ⟨(canonical.isFinite_iff.mp finite).1, by omega, fun _ => below.mp,
    iff_of_true finite (natAbs_units_lt canonical finite), fun _ => .of_storable canonical.storable⟩

/-- Rounding scales a mantissa up first where it is too short. -/
theorem rounded_round (sign : Sign) {mantissa : Nat} {exponent : Int} (filled : 0 < mantissa)
    (low : -1074 ≤ exponent) :
    Rounded 1074 (sign.apply ↑(mantissa * 2 ^ (exponent + 1074).toNat))
      (packed (UnpackedFloat.round .binary64 sign mantissa exponent)) := by
  have below := Nat.log2_self_le filled.ne'
  have long := @Nat.log2_lt mantissa 52 filled.ne'
  have unfolded : UnpackedFloat.round .binary64 sign mantissa exponent =
      roundWithAccuracy .binary64 sign
        (mantissa <<< (exponent - max ((mantissa.log2 : Int) + 1 + exponent - 53) (-1074)).toNat)
        (exponent - (exponent - max ((mantissa.log2 : Int) + 1 + exponent - 53) (-1074)).toNat)
        .exact := rfl
  rw [unfolded]
  generalize shifted : (exponent - max ((mantissa.log2 : Int) + 1 + exponent - 53) (-1074)).toNat =
    count
  have same : mantissa * 2 ^ (exponent + 1074).toNat =
      (mantissa <<< count) * 2 ^ (exponent - count + 1074).toNat := by
    rw [Nat.shiftLeft_eq, Nat.mul_assoc, ← Nat.pow_add]
    congr 2
    omega
  rw [same]
  refine rounded_roundWithAccuracy sign ?_ ?_ (by omega)
  · rw [Nat.shiftLeft_eq]
    exact Nat.mul_pos filled (Nat.two_pow_pos _)
  · by_cases deep : exponent - count ≤ -1074
    · exact .inl deep
    · refine .inr ?_
      rw [Nat.shiftLeft_eq]
      calc 2 ^ 52 ≤ 2 ^ (mantissa.log2 + count) := Nat.pow_le_pow_right Nat.two_pos (by omega)
        _ = 2 ^ mantissa.log2 * 2 ^ count := Nat.pow_add ..
        _ ≤ mantissa * 2 ^ count := Nat.mul_le_mul_right _ below

theorem rounded_normalize (mantissa : Int) {exponent : Int} (low : -1074 ≤ exponent)
    (sign : Sign) : Rounded 1074 (mantissa * 2 ^ (exponent + 1074).toNat)
      (packed (normalize .binary64 mantissa exponent sign)) := by
  rw [UnpackedFloat.normalize]
  split
  · rename_i less
    have less := Int.compare_eq_lt.mp less
    have exact := @rounded_round .negative (-mantissa).toNat exponent (by omega) low
    simpa [Sign.apply, Int.toNat_of_nonneg (by omega : 0 ≤ -mantissa)] using exact
  · rename_i same
    rw [Int.compare_eq_eq.mp same, Int.zero_mul, packed_zero]
    exact rounded_zero 1074 sign
  · rename_i more
    have more := Int.compare_eq_gt.mp more
    have exact := @rounded_round .positive mantissa.toNat exponent (by omega) low
    simpa [Sign.apply, Int.toNat_of_nonneg more.le] using exact

theorem Rounded.packed {scale : Nat} {exact : Int} {value : UnpackedFloat}
    (rounded : Rounded scale exact value) (canonical : Canonical value)
    (finite : value.isFinite = true) : Rounded scale exact (packed value) := by
  have kept : (Double.packed value).isFinite = true ∧
      place (Double.packed value) = place value := by
    cases canonical with
    | notANumber => cases finite
    | infinity sign => cases finite
    | zero sign =>
        rw [packed_zero]
        exact ⟨rfl, rfl⟩
    | finite sign mantissa exponent positive short low high full =>
        exact place_packed positive short low high full
  refine ⟨((canonical_packed value).isFinite_iff.mp kept.1).1, ?_, ?_, ?_, fun _ => ?_⟩
  · rw [kept.2]
    exact rounded.nonneg
  · rw [kept.2]
    exact rounded.positive
  · exact (iff_of_true kept.1 finite).trans rounded.finite
  · rw [(amount_eq_iff (canonical_packed value) canonical kept.1 finite).mpr kept.2]
    exact rounded.nearest finite

/-- A mantissa brought to a smaller exponent stands for the same value. -/
theorem apply_decreaseExponent (sign : Sign) (mantissa : Nat) {exponent target : Int}
    (low : -1074 ≤ target) (below : target ≤ exponent) :
    sign.apply ↑(decreaseExponent mantissa exponent target).1 * 2 ^ (target + 1074).toNat =
      sign.apply ↑(mantissa * 2 ^ (exponent + 1074).toNat) := by
  have width : (exponent + 1074).toNat = (exponent - target).toNat + (target + 1074).toNat := by
    omega
  rw [apply_mul, decreaseExponent, Nat.shiftLeft_eq, width, Nat.pow_add]
  push_cast
  rw [mul_assoc]

/-- A difference of finite values is rounded from their exact difference. -/
theorem rounded_sub {a b : UnpackedFloat} (first : Canonical a) (second : Canonical b)
    (finite : a.isFinite = true) (finite' : b.isFinite = true) :
    Rounded 1074 (units a - units b) (packed (UnpackedFloat.sub .binary64 a b)) := by
  cases first with
  | notANumber => cases finite
  | infinity sign => cases finite
  | zero sign =>
      cases second with
      | notANumber => cases finite'
      | infinity sign => cases finite'
      | zero other => cases sign <;> cases other <;> exact rounded_zero 1074 _
      | finite other mantissa exponent positive short low high full =>
          have opposite : Canonical (.finite (-other) mantissa exponent positive) :=
            .finite _ _ _ positive short low high full
          have turned : units (.zero sign) - units (.finite other mantissa exponent positive) =
              units (.finite (-other) mantissa exponent positive) := by
            cases other
            · exact (Int.zero_sub _).trans (Int.neg_neg _)
            · exact Int.zero_sub _
          rw [turned]
          exact (rounded_of_canonical opposite rfl).packed opposite rfl
  | finite sign mantissa exponent positive short low high full =>
      have kept : Canonical (.finite sign mantissa exponent positive) :=
        .finite _ _ _ positive short low high full
      cases second with
      | notANumber => cases finite'
      | infinity sign => cases finite'
      | zero other =>
          have same : units (.finite sign mantissa exponent positive) - units (.zero other) =
              units (.finite sign mantissa exponent positive) := Int.sub_zero _
          rw [same]
          exact (rounded_of_canonical kept rfl).packed kept rfl
      | finite other mantissa' exponent' positive' short' low' high' full' =>
          have exact := rounded_normalize
            (sign.apply ↑(decreaseExponent mantissa exponent (min exponent exponent')).1 -
              other.apply ↑(decreaseExponent mantissa' exponent' (min exponent exponent')).1)
            (by omega : -1074 ≤ min exponent exponent') .positive
          rw [Int.sub_mul, apply_decreaseExponent sign mantissa (by omega) (by omega),
            apply_decreaseExponent other mantissa' (by omega) (by omega)] at exact
          exact exact

theorem Canonical.neg {value : UnpackedFloat} (canonical : Canonical value) :
    Canonical value.neg := by
  cases canonical with
  | notANumber => exact .notANumber
  | infinity sign => exact .infinity _
  | zero sign => exact .zero _
  | finite sign mantissa exponent positive short low high full =>
      exact .finite _ _ _ positive short low high full

theorem units_neg (value : UnpackedFloat) : units value.neg = -units value := by
  cases value with
  | finite sign mantissa exponent positive =>
      cases sign
      · exact (Int.neg_neg _).symm
      · rfl
  | _ => rfl

theorem add_eq_sub_neg (spec : Float.Model.Format) (a b : UnpackedFloat) :
    UnpackedFloat.add spec a b = UnpackedFloat.sub spec a b.neg := by
  cases b with
  | notANumber => cases a <;> rfl
  | infinity other =>
      cases a with
      | infinity sign => cases sign <;> cases other <;> rfl
      | _ => cases other <;> rfl
  | zero other =>
      cases a with
      | zero sign => cases sign <;> cases other <;> rfl
      | _ => rfl
  | finite other mantissa exponent positive =>
      cases a with
      | finite sign =>
          cases other with
          | negative => rfl
          | positive =>
              simp only [UnpackedFloat.add, UnpackedFloat.neg, UnpackedFloat.sub]
              congr 1
              exact (Int.sub_neg ..).symm
      | _ => cases other <;> rfl

/-- A sum of finite values is rounded from their exact sum. -/
theorem rounded_add {a b : UnpackedFloat} (first : Canonical a) (second : Canonical b)
    (finite : a.isFinite = true) (finite' : b.isFinite = true) :
    Rounded 1074 (units a + units b) (packed (UnpackedFloat.add .binary64 a b)) := by
  have finite'' : b.neg.isFinite = true := by cases b <;> first | rfl | cases finite'
  have rounded := rounded_sub first second.neg finite finite''
  rwa [units_neg, Int.sub_neg, ← add_eq_sub_neg] at rounded

/-- A product of finite values is rounded from their exact product. -/
theorem rounded_mul {a b : UnpackedFloat} (first : Canonical a) (second : Canonical b)
    (finite : a.isFinite = true) (finite' : b.isFinite = true) :
    Rounded 2148 (units a * units b) (packed (UnpackedFloat.mul .binary64 a b)) := by
  cases first with
  | notANumber => cases finite
  | infinity sign => cases finite
  | zero sign =>
      cases second with
      | notANumber => cases finite'
      | infinity sign => cases finite'
      | zero other => cases sign <;> cases other <;> exact rounded_zero 2148 _
      | finite other mantissa exponent positive =>
          rw [UnpackedFloat.mul, packed_zero]
          exact Int.zero_mul _ ▸ rounded_zero 2148 _
  | finite sign mantissa exponent positive short low high full =>
      cases second with
      | notANumber => cases finite'
      | infinity sign => cases finite'
      | zero other =>
          rw [UnpackedFloat.mul, packed_zero]
          exact Int.mul_zero _ ▸ rounded_zero 2148 _
      | finite other mantissa' exponent' positive' short' low' high' full' =>
          have settled : exponent + exponent' ≤ -1074 ∨ 2 ^ 52 ≤ mantissa * mantissa' := by
            rcases full with least | whole
            · rcases full' with least' | whole
              · exact .inl (by omega)
              · exact .inr (whole.trans (Nat.le_mul_of_pos_left _ positive))
            · exact .inr (whole.trans (Nat.le_mul_of_pos_right _ positive'))
          have exact := rounded_roundWithAccuracy (sign * other) (Nat.mul_pos positive positive')
            settled (by omega : 0 ≤ exponent + exponent' + (2148 : Nat))
          have same : units (.finite sign mantissa exponent positive) *
              units (.finite other mantissa' exponent' positive') =
              (sign * other).apply ↑(mantissa * mantissa' *
                2 ^ (exponent + exponent' + (2148 : Nat)).toNat) := by
            have width : (exponent + exponent' + (2148 : Nat)).toNat =
                (exponent + 1074).toNat + (exponent' + 1074).toNat := by omega
            rw [width, Nat.pow_add]
            cases sign <;> cases other <;> simp only [units, Sign.apply] <;> push_cast <;> ring
          rw [same]
          exact exact

end Exact

section Undefined

/-- Becoming a word neither makes nor mends what is no number. -/
theorem isNaN_packed (value : UnpackedFloat) : (packed value).isNaN = value.isNaN := by
  cases value with
  | notANumber => rfl
  | infinity sign => rw [packed_infinity]
  | zero sign => rw [packed_zero]
  | finite sign mantissa exponent positive =>
      rcases lt_or_ge 971 exponent with high | high
      · rw [packed_finite sign positive high]
        rfl
      · have under : ¬ 2 ^ 11 ≤ (exponent + 1023 + 52).toNat + 1 := by omega
        have unfolded : UnpackedFloat.pack .binary64 (.finite sign mantissa exponent positive) =
            if mantissa.log2 + 1 = 53 then
              packComponents .binary64 sign (BitVec.ofNat _ (exponent + 1023 + 52).toNat)
                (BitVec.ofNat _ mantissa)
            else packComponents .binary64 sign 0#11 (BitVec.ofNat _ mantissa) := if_neg under
        have bit : sign.toBitVec.toNat ≤ 1 := by cases sign <;> decide
        have short := (BitVec.ofNat 52 mantissa).isLt
        rw [packed, (denotes_unpack _).isNaN, unfolded]
        refine decide_eq_false ?_
        split
        · rw [toNat_packComponents, BitVec.toNat_ofNat]
          omega
        · rw [toNat_packComponents, BitVec.toNat_ofNat]
          omega

theorem isNaN_roundWithAccuracy (sign : Sign) (mantissa : Nat) (exponent : Int)
    (accuracy : Accuracy) :
    (roundWithAccuracy .binary64 sign mantissa exponent accuracy).isNaN = false := by
  rw [roundWithAccuracy]
  dsimp only
  split <;> rfl

theorem isNaN_normalize (mantissa : Int) (exponent : Int) (sign : Sign) :
    (normalize .binary64 mantissa exponent sign).isNaN = false := by
  rw [UnpackedFloat.normalize]
  split
  · exact isNaN_roundWithAccuracy ..
  · rfl
  · exact isNaN_roundWithAccuracy ..

end Undefined

section Doubles

variable {a b c : Float}

theorem isNaN_add (finite : a.isFinite = true) (number : b.isNaN = false) :
    (a + b).isNaN = false := by
  change (packed (UnpackedFloat.add .binary64 (value a) (value b))).isNaN = false
  change (value a).isFinite = true at finite
  change (value b).isNaN = false at number
  rw [isNaN_packed]
  generalize value a = first at *
  generalize value b = second at *
  cases first with
  | notANumber => cases finite
  | infinity sign => cases finite
  | zero sign =>
      cases second with
      | notANumber => cases number
      | zero other => cases sign <;> cases other <;> rfl
      | _ => rfl
  | finite sign mantissa exponent positive =>
      cases second with
      | notANumber => cases number
      | finite => exact isNaN_normalize ..
      | _ => rfl

/-- A positive finite double is neither zero nor infinite. -/
theorem exists_value (finite : b.isFinite = true) (positive : 0 < b) :
    ∃ mantissa exponent filled, value b = .finite .positive mantissa exponent filled := by
  have ahead : 0 < place (value b) := (lt_iff.mp positive).2
  have canonical := (denotes b).canonical
  change (value b).isFinite = true at finite
  generalize value b = held at *
  cases canonical with
  | notANumber => cases finite
  | infinity sign => cases finite
  | zero sign => exact absurd ahead (lt_irrefl _)
  | finite sign mantissa exponent filled short low =>
      cases sign with
      | negative =>
          rw [place, Sign.apply] at ahead
          omega
      | positive => exact ⟨mantissa, exponent, filled, rfl⟩

theorem isNaN_mul (number : a.isNaN = false) (finite : b.isFinite = true) (positive : 0 < b) :
    (a * b).isNaN = false := by
  change (value a).isNaN = false at number
  rcases exists_value finite positive with ⟨mantissa, exponent, filled, held⟩
  change (packed (UnpackedFloat.mul .binary64 (value a) (value b))).isNaN = false
  rw [isNaN_packed, held]
  generalize value a = first at *
  cases first with
  | notANumber => cases number
  | finite => exact isNaN_roundWithAccuracy ..
  | _ => rfl

theorem isNaN_div (number : a.isNaN = false) (finite : b.isFinite = true) (positive : 0 < b) :
    (a / b).isNaN = false := by
  change (value a).isNaN = false at number
  rcases exists_value finite positive with ⟨mantissa, exponent, filled, held⟩
  change (packed (UnpackedFloat.div .binary64 (value a) (value b))).isNaN = false
  rw [isNaN_packed, held]
  generalize value a = first at *
  cases first with
  | notANumber => cases number
  | finite => exact isNaN_roundWithAccuracy ..
  | _ => rfl

theorem rounded_value_sub (finite : a.isFinite = true) (finite' : b.isFinite = true) :
    Rounded 1074 (units (value a) - units (value b)) (value (a - b)) :=
  rounded_sub (denotes a).canonical (denotes b).canonical finite finite'

theorem rounded_value_mul (finite : a.isFinite = true) (finite' : b.isFinite = true) :
    Rounded 2148 (units (value a) * units (value b)) (value (a * b)) :=
  rounded_mul (denotes a).canonical (denotes b).canonical finite finite'

theorem isNaN_of_isFinite (finite : a.isFinite = true) : a.isNaN = false :=
  ((denotes a).canonical.isFinite_iff.mp finite).1

theorem units_le (finite : a.isFinite = true) (finite' : b.isFinite = true) (le : a ≤ b) :
    units (value a) ≤ units (value b) := by
  rw [← not_lt, units_lt_iff (denotes b).canonical (denotes a).canonical finite' finite, not_lt]
  exact (le_iff.mp le).2

theorem units_lt (finite : a.isFinite = true) (finite' : b.isFinite = true) (less : a < b) :
    units (value a) < units (value b) :=
  (units_lt_iff (denotes a).canonical (denotes b).canonical finite finite').mpr (lt_iff.mp less).2

/-- Finite doubles that differ have a difference. -/
theorem sub_pos (finite : a.isFinite = true) (finite' : b.isFinite = true) (less : a < b) :
    0 < b - a := by
  have rounded := rounded_value_sub finite' finite
  refine lt_iff.mpr ⟨⟨rfl, rounded.number⟩, rounded.positive (le_refl _) ?_⟩
  exact Int.sub_pos_of_lt (units_lt finite finite' less)

theorem sub_nonneg (finite : a.isFinite = true) (finite' : b.isFinite = true) (le : a ≤ b) :
    0 ≤ b - a := by
  have rounded := rounded_value_sub finite' finite
  refine le_iff.mpr ⟨⟨rfl, rounded.number⟩, rounded.nonneg ?_⟩
  exact Int.sub_nonneg_of_le (units_le finite finite' le)

theorem isFinite_sub_of_le (finite : a.isFinite = true) (finite' : b.isFinite = true)
    (finite'' : c.isFinite = true) (low : a ≤ b) (high : b ≤ c)
    (within : (c - a).isFinite = true) : (b - a).isFinite = true := by
  have whole := (rounded_value_sub finite'' finite).finite.mp within
  have low := units_le finite finite' low
  have high := units_le finite' finite'' high
  exact (rounded_value_sub finite' finite).finite.mpr (by omega)

theorem isFinite_sub_of_nonneg (finite : a.isFinite = true) (finite' : b.isFinite = true)
    (nonneg : 0 ≤ a) (nonneg' : 0 ≤ b) : (a - b).isFinite = true := by
  have low : 0 ≤ units (value a) := units_le rfl finite nonneg
  have low' : 0 ≤ units (value b) := units_le rfl finite' nonneg'
  have high := natAbs_units_lt (denotes a).canonical finite
  have high' := natAbs_units_lt (denotes b).canonical finite'
  exact (rounded_value_sub finite finite').finite.mpr (by omega)

theorem units_one {scale : Nat} (same : scale = 1074) :
    units (value 1) = ((2 ^ scale : Nat) : Int) := by
  have one : value 1 = .finite .positive (2 ^ 52) (-52) (by decide) := rfl
  have width : 52 + ((-52 : Int) + 1074).toNat = scale := same.symm
  rw [one, units, Sign.apply, ← Nat.pow_add, width]

/-- A part of a finite double is finite. -/
theorem part_mul (low : 0 ≤ a) (high : a ≤ 1) (finite : b.isFinite = true) (nonneg : 0 ≤ b) :
    (a * b).isFinite = true ∧ 0 ≤ a * b := by
  have zero : place (value 0) = 0 := rfl
  have one : place (value 1) = 1023 * 2 ^ 52 := rfl
  have bottom := (le_iff.mp low).2
  have top := (le_iff.mp high).2
  have finite' : a.isFinite = true :=
    (denotes a).canonical.isFinite_iff.mpr ⟨(le_iff.mp low).1.2, by omega⟩
  have rounded := rounded_value_mul finite' finite
  have first : 0 ≤ units (value a) := units_le rfl finite' low
  have second : 0 ≤ units (value b) := units_le rfl finite nonneg
  have short := natAbs_units_lt (denotes b).canonical finite
  refine ⟨rounded.finite.mpr ?_, le_iff.mpr ⟨⟨rfl, rounded.number⟩,
    rounded.nonneg (Int.mul_nonneg first second)⟩⟩
  obtain ⟨scale, same⟩ : ∃ scale, scale = 1074 := ⟨_, rfl⟩
  have part : units (value a) ≤ ((2 ^ scale : Nat) : Int) :=
    units_one same ▸ units_le finite' rfl high
  have double : 2148 = scale + scale := by omega
  rw [Int.natAbs_mul, double]
  rw [← same] at short
  calc (units (value a)).natAbs * (units (value b)).natAbs
      ≤ 2 ^ scale * (units (value b)).natAbs := Nat.mul_le_mul_right _ (by omega)
    _ < 2 ^ scale * limit scale := Nat.mul_lt_mul_of_pos_left short (Nat.two_pow_pos _)
    _ = limit (scale + scale) := by
        rw [limit, limit, Nat.mul_left_comm, ← Nat.pow_add, Nat.add_left_comm]

end Doubles

end SeriesQuery.Double
