import Mathlib
import SeriesQuery.Proofs.Order
import SeriesQuery.Proofs.Ranked
/-!
Doubles by their words. A word is a sign and a size, and numbers are compared as the integers that
these make; words of a size beyond that of the infinities stand for no number.
-/
namespace SeriesQuery.Double

open Float.Model UnpackedFloat

/-- The integer that places a value among the others. -/
def place : UnpackedFloat → Int
  | .notANumber => 0
  | .infinity sign => sign.apply (2047 * 2 ^ 52)
  | .zero _ => 0
  | .finite sign mantissa exponent _ => sign.apply ((exponent + 1074) * 2 ^ 52 + mantissa)

/-- The values that words denote. -/
inductive Canonical : UnpackedFloat → Prop
  | notANumber : Canonical .notANumber
  | infinity (sign : Sign) : Canonical (.infinity sign)
  | zero (sign : Sign) : Canonical (.zero sign)
  | finite (sign : Sign) (mantissa : Nat) (exponent : Int) (positive : 0 < mantissa)
      (short : mantissa < 2 ^ 53) (low : -1074 ≤ exponent) (high : exponent ≤ 971)
      (full : exponent = -1074 ∨ 2 ^ 52 ≤ mantissa) :
      Canonical (.finite sign mantissa exponent positive)

section Comparison

theorem some_lt {a b : Int} (less : a < b) : some Ordering.lt = some (compare a b) :=
  congrArg some (Int.compare_eq_lt.mpr less).symm

theorem some_gt {a b : Int} (less : b < a) : some Ordering.gt = some (compare a b) :=
  congrArg some (Int.compare_eq_gt.mpr less).symm

theorem compare_neg (a b : Int) : compare (-a) (-b) = (compare a b).swap := by
  rcases Int.lt_trichotomy a b with less | rfl | more
  · rw [Int.compare_eq_lt.mpr less, Int.compare_eq_gt.mpr (Int.neg_lt_neg less)]
    rfl
  · rw [Int.compare_eq_eq.mpr rfl, Int.compare_eq_eq.mpr rfl]
    rfl
  · rw [Int.compare_eq_gt.mpr more, Int.compare_eq_lt.mpr (Int.neg_lt_neg more)]
    rfl

/-- Exponents decide, since only the least one goes with mantissas that are not full. -/
theorem compare_then {first second : Nat} {low high : Int} (short : first < 2 ^ 53)
    (short' : second < 2 ^ 53) (bounded : -1074 ≤ low) (bounded' : -1074 ≤ high)
    (full : low = -1074 ∨ 2 ^ 52 ≤ first) (full' : high = -1074 ∨ 2 ^ 52 ≤ second) :
    (compare low high).then (compare first second) =
      compare ((low + 1074) * 2 ^ 52 + first) ((high + 1074) * 2 ^ 52 + second) := by
  rcases Int.lt_trichotomy low high with less | rfl | more
  · have : (low + 1074) * 2 ^ 52 + first < (high + 1074) * 2 ^ 52 + second := by
      rcases full' with rfl | full' <;> omega
    rw [Int.compare_eq_lt.mpr less, Int.compare_eq_lt.mpr this]
    rfl
  · rw [Int.compare_eq_eq.mpr rfl]
    rcases Nat.lt_trichotomy first second with less | rfl | more
    · rw [Nat.compare_eq_lt.mpr less, Int.compare_eq_lt.mpr (by omega)]
      rfl
    · rw [Nat.compare_eq_eq.mpr rfl, Int.compare_eq_eq.mpr rfl]
      rfl
    · rw [Nat.compare_eq_gt.mpr more, Int.compare_eq_gt.mpr (by omega)]
      rfl
  · have : (high + 1074) * 2 ^ 52 + second < (low + 1074) * 2 ^ 52 + first := by
      rcases full with rfl | full <;> omega
    rw [Int.compare_eq_gt.mpr more, Int.compare_eq_gt.mpr this]
    rfl

/-- The sign decides first, and among negative values the greater size is the lesser one. -/
theorem compare_finite (sign other : Sign) {first second : Nat} {low high : Int}
    (positive : 0 < first) (positive' : 0 < second)
    (sizes : (compare low high).then (compare first second) =
      compare ((low + 1074) * 2 ^ 52 + first) ((high + 1074) * 2 ^ 52 + second))
    (bounded : -1074 ≤ low) (bounded' : -1074 ≤ high) :
    (UnpackedFloat.finite sign first low positive).compare
        (.finite other second high positive') =
      some (compare (place (.finite sign first low positive))
        (place (.finite other second high positive'))) := by
  cases sign with
  | negative =>
      cases other with
      | negative =>
          rw [place, place, Sign.apply, Sign.apply, compare_neg, ← sizes]
          rfl
      | positive =>
          refine some_lt ?_
          simp only [place, Sign.apply]
          omega
  | positive =>
      cases other with
      | negative =>
          refine some_gt ?_
          simp only [place, Sign.apply]
          omega
      | positive => exact congrArg some sizes

/-- Numbers are compared as the integers that place them. -/
theorem compare_eq {a b : UnpackedFloat} (first : Canonical a) (second : Canonical b)
    (number : a.isNaN = false) (number' : b.isNaN = false) :
    a.compare b = some (compare (place a) (place b)) := by
  cases first with
  | notANumber => cases number
  | infinity sign =>
      cases second with
      | notANumber => cases number'
      | infinity other => cases sign <;> cases other <;> rfl
      | zero other => cases sign <;> rfl
      | finite other mantissa exponent positive =>
          cases sign with
          | negative =>
              refine some_lt ?_
              cases other <;> simp only [place, Sign.apply] <;> omega
          | positive =>
              refine some_gt ?_
              cases other <;> simp only [place, Sign.apply] <;> omega
  | zero sign =>
      cases second with
      | notANumber => cases number'
      | infinity other => cases other <;> rfl
      | zero other => rfl
      | finite other mantissa exponent positive =>
          cases other with
          | negative =>
              refine some_gt ?_
              simp only [place, Sign.apply]
              omega
          | positive =>
              refine some_lt ?_
              simp only [place, Sign.apply]
              omega
  | finite sign mantissa exponent positive short low high full =>
      cases second with
      | notANumber => cases number'
      | infinity other =>
          cases other with
          | negative =>
              refine some_gt ?_
              cases sign <;> simp only [place, Sign.apply] <;> omega
          | positive =>
              refine some_lt ?_
              cases sign <;> simp only [place, Sign.apply] <;> omega
      | zero other =>
          cases sign with
          | negative =>
              refine some_lt ?_
              simp only [place, Sign.apply]
              omega
          | positive =>
              refine some_gt ?_
              simp only [place, Sign.apply]
              omega
      | finite other mantissa' exponent' positive' short' low' high' full' =>
          have sizes := compare_then short short' low low' full full'
          exact compare_finite sign other positive positive' sizes low low'

end Comparison

section Words

theorem toNat_unpackMantissa (word : BitVec 64) :
    (@unpackMantissa .binary64 word).toNat = word.toNat % 2 ^ 52 := by
  simp [unpackMantissa, BitVec.extractLsb]

theorem toNat_unpackExponent (word : BitVec 64) :
    (@unpackExponent .binary64 word).toNat = word.toNat / 2 ^ 52 % 2 ^ 11 := by
  simp [unpackExponent, BitVec.extractLsb, Nat.shiftRight_eq_div_pow]

theorem ofBitVec_unpackSign (word : BitVec 64) :
    Sign.ofBitVec (@unpackSign .binary64 word) =
      if word.toNat < 2 ^ 63 then .positive else .negative := by
  have small : word.toNat < 2 ^ 64 := word.isLt
  have bit : (@unpackSign .binary64 word).toNat = word.toNat / 2 ^ 63 % 2 := by
    simp [unpackSign, BitVec.extractLsb, Nat.shiftRight_eq_div_pow]
  have clear : @unpackSign .binary64 word = 0#1 ↔ word.toNat < 2 ^ 63 := by
    rw [← BitVec.toNat_inj, bit, BitVec.toNat_ofNat]
    omega
  rw [Sign.ofBitVec]
  simp only [clear]

theorem toNat_one_append {width : Nat} (bits : BitVec width) :
    (1#1 ++ bits).toNat = 2 ^ width + bits.toNat := by
  rw [BitVec.toNat_append, ← Nat.shiftLeft_add_eq_or_of_lt bits.isLt]
  simp [Nat.shiftLeft_eq]

/-- The size of a word, with its sign in front. -/
def signed (word : Nat) : Int := if word < 2 ^ 63 then word else 2 ^ 63 - word

/-- What a word denotes, by its sign and its size. -/
structure Denotes (word : Nat) (value : UnpackedFloat) : Prop where
  canonical : Canonical value
  isNaN : value.isNaN = decide (2047 * 2 ^ 52 < word % 2 ^ 63)
  place : value.isNaN = false → place value = signed word

theorem denotes_unpack (word : BitVec 64) :
    Denotes word.toNat (UnpackedFloat.unpack .binary64 word) := by
  have small : word.toNat < 2 ^ 64 := word.isLt
  have bias : ((Format.binary64.exponentBias : Nat) : Int) = 1023 := rfl
  have width : ((Format.binary64.mantissaBitsWithoutImplicit : Nat) : Int) = 52 := rfl
  have exponent := toNat_unpackExponent word
  have mantissa := toNat_unpackMantissa word
  have allOnes : @unpackExponent .binary64 word = -1#11 ↔
      word.toNat / 2 ^ 52 % 2 ^ 11 = 2047 := by
    rw [← BitVec.toNat_inj, exponent]
    rfl
  have noOnes : @unpackExponent .binary64 word = 0#11 ↔
      word.toNat / 2 ^ 52 % 2 ^ 11 = 0 := by
    rw [← BitVec.toNat_inj, exponent]
    rfl
  have blank : @unpackMantissa .binary64 word = 0#52 ↔ word.toNat % 2 ^ 52 = 0 := by
    rw [← BitVec.toNat_inj, mantissa]
    rfl
  rw [UnpackedFloat.unpack]
  simp only [ofBitVec_unpackSign, toNat_one_append, exponent, mantissa, bias, width]
  split
  · rename_i special
    rw [allOnes] at special
    split
    · rename_i void
      rw [blank] at void
      refine ⟨.infinity _, (decide_eq_false (by omega)).symm, fun _ => ?_⟩
      rw [Double.place, signed]
      split <;> simp only [Sign.apply] <;> omega
    · rename_i more
      rw [blank] at more
      exact ⟨.notANumber, (decide_eq_true (by omega)).symm, fun number => by cases number⟩
  · rename_i common
    rw [allOnes] at common
    split
    · rename_i least
      rw [noOnes] at least
      split
      · rename_i void
        rw [blank] at void
        refine ⟨.zero _, (decide_eq_false (by omega)).symm, fun _ => ?_⟩
        rw [Double.place, signed]
        split <;> omega
      · refine ⟨.finite _ _ _ _ (by omega) (by omega) (by omega) (by omega),
          (decide_eq_false (by omega)).symm, fun _ => ?_⟩
        rw [Double.place, signed]
        split <;> simp only [Sign.apply] <;> omega
    · rename_i regular
      rw [noOnes] at regular
      refine ⟨.finite _ _ _ _ (by omega) (by omega) (by omega) (by omega),
        (decide_eq_false (by omega)).symm, fun _ => ?_⟩
      rw [Double.place, signed]
      split <;> simp only [Sign.apply] <;> omega

end Words

section Ranked

theorem compare_of_isNaN {a b : UnpackedFloat}
    (undefined : ¬ (a.isNaN = false ∧ b.isNaN = false)) : a.compare b = none := by
  cases a with
  | notANumber => rfl
  | infinity sign =>
      cases b with
      | notANumber => rfl
      | _ => exact absurd ⟨rfl, rfl⟩ undefined
  | zero sign =>
      cases b with
      | notANumber => rfl
      | _ => exact absurd ⟨rfl, rfl⟩ undefined
  | finite sign mantissa exponent positive =>
      cases b with
      | notANumber => rfl
      | _ => exact absurd ⟨rfl, rfl⟩ undefined

theorem Canonical.between {value : UnpackedFloat} (canonical : Canonical value) :
    -(2047 * 2 ^ 52) ≤ place value ∧ place value ≤ 2047 * 2 ^ 52 := by
  cases canonical with
  | notANumber => decide
  | infinity sign => cases sign <;> decide
  | zero sign => cases sign <;> decide
  | finite sign mantissa exponent positive short low high full =>
      cases sign <;> simp only [place, Sign.apply] <;> omega

theorem Canonical.isFinite_iff {value : UnpackedFloat} (canonical : Canonical value) :
    value.isFinite = true ↔ value.isNaN = false ∧
      -(2047 * 2 ^ 52) < place value ∧ place value < 2047 * 2 ^ 52 := by
  cases canonical with
  | notANumber => decide
  | infinity sign => cases sign <;> decide
  | zero sign => cases sign <;> decide
  | finite sign mantissa exponent positive short low high full =>
      refine iff_of_true rfl ⟨rfl, ?_⟩
      cases sign <;> simp only [place, Sign.apply] <;> omega

/-- What a double is, apart from its word. -/
def value (double : Float) : UnpackedFloat := double.toModel.unpack

theorem denotes (double : Float) : Denotes double.toBits.toNat (value double) :=
  denotes_unpack double.toModel.toBits.toBitVec

theorem compare_value (a b : Float) : (value a).compare (value b) =
    if a.isNaN = false ∧ b.isNaN = false then
      some (compare (place (value a)) (place (value b)))
    else none := by
  split
  · rename_i numbers
    exact compare_eq (denotes a).canonical (denotes b).canonical numbers.1 numbers.2
  · rename_i undefined
    exact compare_of_isNaN undefined

theorem lt_iff {a b : Float} :
    a < b ↔ (a.isNaN = false ∧ b.isNaN = false) ∧ place (value a) < place (value b) := by
  have unfolded : a < b ↔ ((value a).compare (value b) == some .lt) = true := by
    change decide (((value a).compare (value b) == some .lt) = true) = true ↔ _
    rw [decide_eq_true_eq]
  rw [unfolded, compare_value]
  split <;> simp_all [Int.compare_eq_lt]

theorem le_iff {a b : Float} :
    a ≤ b ↔ (a.isNaN = false ∧ b.isNaN = false) ∧ place (value a) ≤ place (value b) := by
  have unfolded : a ≤ b ↔ ((value a).compare (value b)).any (·.isLE) = true := by
    change decide (((value a).compare (value b)).any (·.isLE) = true) = true ↔ _
    rw [decide_eq_true_eq]
  rw [unfolded, compare_value]
  split <;> simp_all [Int.isLE_compare]

theorem beq_iff {a b : Float} :
    (a == b) = true ↔ (a.isNaN = false ∧ b.isNaN = false) ∧ place (value a) = place (value b) := by
  have unfolded : (a == b) = ((value a).compare (value b) == some .eq) := rfl
  rw [unfolded, compare_value]
  split <;> simp_all

/-- The order of all doubles refines that of the numbers among them. -/
theorem orderKey_lt {a b : Float} (less : a < b) : orderKey a < orderKey b := by
  rcases lt_iff.mp less with ⟨⟨number, number'⟩, below⟩
  rw [(denotes a).place number, (denotes b).place number', signed, signed] at below
  unfold orderKey Decimal.signBit
  dsimp only
  split at below <;> split at below <;> split <;> split <;> omega

instance : Scalar.Ranked Float where
  Line := Int
  place double := place (value double)
  lt_iff := lt_iff
  le_iff := le_iff
  beq_iff := beq_iff
  compareTotal_of_lt less := Int.compare_eq_lt.mpr (orderKey_lt less)
  number_infinity := rfl
  number_neg_infinity := rfl
  le_infinity {a} _ := (denotes a).canonical.between.2
  neg_infinity_le {a} _ := (denotes a).canonical.between.1
  isFinite_iff {a} := (denotes a).canonical.isFinite_iff

end Ranked

end SeriesQuery.Double
