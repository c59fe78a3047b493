import Mathlib.Tactic.Ring
import SeriesQuery.Proofs.Double.Nearest
/-!
How doubles round. An exact result becomes a number of its sign, which is finite just when the exact
result is below the middle between the greatest finite double and the power of two above it.
-/
namespace SeriesQuery.Double

open Float.Model UnpackedFloat

/-- What is left of a value when it becomes a word. -/
def packed (value : UnpackedFloat) : UnpackedFloat :=
  UnpackedFloat.unpack .binary64 (UnpackedFloat.pack .binary64 value)

section Packing

theorem canonical_packed (value : UnpackedFloat) : Canonical (packed value) :=
  (denotes_unpack (UnpackedFloat.pack .binary64 value)).canonical

theorem packed_infinity (sign : Sign) : packed (.infinity sign) = .infinity sign := by
  cases sign <;> rfl

theorem packed_zero (sign : Sign) : packed (.zero sign) = .zero sign := by
  cases sign <;> rfl

theorem toNat_packComponents (sign : Sign) (exponent : BitVec 11) (mantissa : BitVec 52) :
    (packComponents .binary64 sign exponent mantissa).toNat =
      (sign.toBitVec.toNat * 2 ^ 11 + exponent.toNat) * 2 ^ 52 + mantissa.toNat := by
  have high := Nat.shiftLeft_add_eq_or_of_lt exponent.isLt sign.toBitVec.toNat
  rw [packComponents, BitVec.toNat_append, BitVec.toNat_append, ← high,
    ← Nat.shiftLeft_add_eq_or_of_lt mantissa.isLt, Nat.shiftLeft_eq, Nat.shiftLeft_eq]

theorem packed_finite (sign : Sign) {mantissa : Nat} {exponent : Int} (positive : 0 < mantissa)
    (high : 971 < exponent) :
    packed (.finite sign mantissa exponent positive) = .infinity sign := by
  have large : 2 ^ 11 ≤ (exponent + 1023 + 52).toNat + 1 := by omega
  have top : UnpackedFloat.pack .binary64 (.finite sign mantissa exponent positive) =
      UnpackedFloat.pack .binary64 (.infinity sign) := if_pos large
  rw [packed, top]
  exact packed_infinity sign

/-- The word of a finite value is its size behind its sign. -/
theorem toNat_pack {sign : Sign} {mantissa : Nat} {exponent : Int} (positive : 0 < mantissa)
    (short : mantissa < 2 ^ 53) (low : -1074 ≤ exponent) (high : exponent ≤ 971)
    (full : exponent = -1074 ∨ 2 ^ 52 ≤ mantissa) :
    (UnpackedFloat.pack .binary64 (.finite sign mantissa exponent positive)).toNat =
      sign.toBitVec.toNat * 2 ^ 63 + (exponent + 1074).toNat * 2 ^ 52 + mantissa := by
  have under : ¬ 2 ^ 11 ≤ (exponent + 1023 + 52).toNat + 1 := by omega
  have unfolded : UnpackedFloat.pack .binary64 (.finite sign mantissa exponent positive) =
      if mantissa.log2 + 1 = 53 then
        packComponents .binary64 sign (BitVec.ofNat _ (exponent + 1023 + 52).toNat)
          (BitVec.ofNat _ mantissa)
      else packComponents .binary64 sign 0#11 (BitVec.ofNat _ mantissa) := if_neg under
  have whole : mantissa.log2 + 1 = 53 ↔ 2 ^ 52 ≤ mantissa := by
    rw [Nat.add_right_cancel_iff, Nat.log2_eq_iff positive.ne']
    omega
  rw [unfolded]
  split
  · rename_i width
    rw [whole] at width
    rw [toNat_packComponents, BitVec.toNat_ofNat, BitVec.toNat_ofNat]
    omega
  · rename_i width
    rw [whole] at width
    rw [toNat_packComponents, BitVec.toNat_ofNat, BitVec.toNat_ofNat]
    omega

/-- Values that words denote keep their place. -/
theorem place_packed {sign : Sign} {mantissa : Nat} {exponent : Int} (positive : 0 < mantissa)
    (short : mantissa < 2 ^ 53) (low : -1074 ≤ exponent) (high : exponent ≤ 971)
    (full : exponent = -1074 ∨ 2 ^ 52 ≤ mantissa) :
    (packed (.finite sign mantissa exponent positive)).isFinite = true ∧
      place (packed (.finite sign mantissa exponent positive)) =
        place (.finite sign mantissa exponent positive) := by
  have word := @toNat_pack sign _ _ positive short low high full
  have denoted := denotes_unpack
    (UnpackedFloat.pack .binary64 (.finite sign mantissa exponent positive))
  have number : (packed (.finite sign mantissa exponent positive)).isNaN = false := by
    rw [packed, denoted.isNaN, word, decide_eq_false_iff_not]
    cases sign <;> simp only [Sign.toBitVec, BitVec.toNat_ofNat] <;> omega
  have same : place (packed (.finite sign mantissa exponent positive)) =
      place (.finite sign mantissa exponent positive) := by
    refine (denoted.place number).trans ?_
    rw [word, signed, place]
    cases sign <;> simp only [Sign.toBitVec, BitVec.toNat_ofNat, Sign.apply] <;> split <;> omega
  refine ⟨(canonical_packed _).isFinite_iff.mpr ⟨number, ?_⟩, same⟩
  rw [same]
  exact ((Canonical.finite sign _ _ positive short low high full).isFinite_iff.mp rfl).2

end Packing

section Shifting

theorem mantissa_shiftRight (extended : ExtendedMantissa) (count : Nat) :
    (extended >>> count).mantissa = extended.mantissa / 2 ^ count := by
  induction count with
  | zero => exact (Nat.div_one _).symm
  | succ count ih =>
      change (extended >>> count).mantissa / 2 = _
      rw [ih, Nat.div_div_eq_div_mul, Nat.pow_succ]

/-- The first bit that a mantissa loses decides how it is rounded. -/
theorem roundBit_shiftRight (mantissa count : Nat) :
    (ExtendedMantissa.ofMantissaAndAccuracy mantissa .exact >>> count).roundBit =
      decide (2 * mantissa / 2 ^ count % 2 = 1) := by
  cases count with
  | zero =>
      rw [Nat.pow_zero, Nat.div_one, Nat.mul_mod_right]
      rfl
  | succ count =>
      change ((ExtendedMantissa.ofMantissaAndAccuracy mantissa .exact >>> count).mantissa % 2 != 0)
        = _
      rw [mantissa_shiftRight, Nat.pow_succ, Nat.mul_comm (2 ^ count),
        Nat.mul_div_mul_left _ _ Nat.two_pos]
      change (mantissa / 2 ^ count % 2 != 0) = _
      rcases Nat.mod_two_eq_zero_or_one (mantissa / 2 ^ count) with even | odd
      · rw [even]; rfl
      · rw [odd]; rfl

theorem roundedMantissa_spec (extended : ExtendedMantissa) :
    extended.mantissa ≤ extended.roundedMantissa ∧
      extended.roundedMantissa ≤ extended.mantissa + 1 ∧
      (extended.mantissa % 2 = 1 →
        (extended.roundedMantissa = extended.mantissa + 1 ↔ extended.roundBit = true)) := by
  rcases extended with ⟨mantissa, round, sticky⟩
  cases round <;> cases sticky <;>
    simp only [ExtendedMantissa.roundedMantissa, ExtendedMantissa.accuracy,
      Accuracy.roundToNearestEven] <;> grind

/-- What a mantissa and its round bit leave of a number; nothing where the sticky bit is clear. -/
def Leaves (extended : ExtendedMantissa) (number unit : Nat) : Prop :=
  ∃ rest < unit, number = (2 * extended.mantissa + extended.roundBit.toNat) * unit + rest ∧
    (extended.stickyBit = false → rest = 0)

theorem Leaves.shiftRightOne {extended : ExtendedMantissa} {number unit : Nat}
    (leaves : Leaves extended number unit) : Leaves extended.shiftRightOne number (unit * 2) := by
  rcases leaves with ⟨rest, less, rfl, clear⟩
  rcases extended with ⟨mantissa, round, sticky⟩
  have halves := Nat.div_add_mod mantissa 2
  have bit : (mantissa % 2 != 0).toNat = mantissa % 2 := by
    rcases Nat.mod_two_eq_zero_or_one mantissa with even | odd
    · rw [even]; rfl
    · rw [odd]; rfl
  refine ⟨round.toNat * unit + rest, ?_, ?_, ?_⟩
  · cases round <;> simp only [Bool.toNat_false, Bool.toNat_true] <;> omega
  · simp only [ExtendedMantissa.shiftRightOne, bit, halves]
    ring
  · cases round <;> cases sticky <;> simp_all [ExtendedMantissa.shiftRightOne]

theorem leaves_shiftRight (mantissa count : Nat) :
    Leaves (ExtendedMantissa.ofMantissaAndAccuracy mantissa .exact >>> count) (2 * mantissa)
      (2 ^ count) := by
  induction count with
  | zero => exact ⟨0, by decide, (Nat.mul_one _).symm, fun _ => rfl⟩
  | succ count ih => exact ih.shiftRightOne

/-- Rounding a mantissa changes the number by half a unit at most. -/
theorem Leaves.half {extended : ExtendedMantissa} {number unit : Nat}
    (leaves : Leaves extended number unit) :
    number ≤ 2 * extended.roundedMantissa * unit + unit ∧
      2 * extended.roundedMantissa * unit ≤ number + unit := by
  rcases leaves with ⟨rest, less, rfl, clear⟩
  rcases extended with ⟨mantissa, round, sticky⟩
  cases round <;> cases sticky <;>
    simp only [ExtendedMantissa.roundedMantissa, ExtendedMantissa.accuracy,
      Accuracy.roundToNearestEven, Bool.toNat_false, Bool.toNat_true] at clear ⊢
  · grind
  · grind
  · rcases Nat.mod_two_eq_zero_or_one mantissa with even | odd
    · rw [even]
      grind
    · rw [odd]
      grind
  · grind

/-- By how many bits a mantissa is too long for its exponent. -/
def excess (mantissa : Nat) (exponent : Int) : Nat :=
  (max ((mantissa.log2 : Int) + 1 + exponent - 53) (-1074) - exponent).toNat

theorem shiftToTargetExponent_eq (mantissa : Nat) (exponent : Int) :
    shiftToTargetExponent .binary64 mantissa exponent .exact =
      (ExtendedMantissa.ofMantissaAndAccuracy mantissa .exact >>> excess mantissa exponent,
        exponent + excess mantissa exponent) := rfl

theorem excess_spec {mantissa : Nat} {exponent : Int} (filled : 0 < mantissa)
    (settled : exponent ≤ -1074 ∨ 2 ^ 52 ≤ mantissa) :
    -1074 ≤ exponent + excess mantissa exponent ∧
      mantissa < 2 ^ (53 + excess mantissa exponent) ∧
      (exponent + excess mantissa exponent = -1074 ∨
        2 ^ (52 + excess mantissa exponent) ≤ mantissa) := by
  have below := Nat.log2_self_le filled.ne'
  have above := @Nat.lt_log2_self mantissa
  have long : 2 ^ 52 ≤ mantissa → 52 ≤ mantissa.log2 := (Nat.le_log2 filled.ne').mpr
  rw [excess]
  generalize mantissa.log2 = log at *
  by_cases deep : (log : Int) + 1 + exponent - 53 ≤ -1074
  · refine ⟨by omega, above.trans_le (Nat.pow_le_pow_right Nat.two_pos (by omega)), ?_⟩
    omega
  · have width : (max ((log : Int) + 1 + exponent - 53) (-1074) - exponent).toNat = log - 52 := by
      omega
    have full : 52 ≤ log := by omega
    rw [width, ← Nat.add_sub_assoc full, ← Nat.add_sub_assoc full]
    refine ⟨by omega, ?_, .inr ?_⟩
    · rwa [show 53 + log - 52 = log + 1 by omega]
    · rwa [Nat.add_sub_cancel_left]

/-- A rounded mantissa is too long only where it has become the next power of two. -/
theorem excess_rounded {mantissa : Nat} {exponent : Int} (short : mantissa ≤ 2 ^ 53)
    (low : -1074 ≤ exponent) :
    excess mantissa exponent = if mantissa = 2 ^ 53 then 1 else 0 := by
  split
  · rename_i whole
    have log : mantissa.log2 = 53 := by rw [whole, Nat.log2_two_pow]
    rw [excess, log]
    omega
  · rename_i other
    have log : mantissa.log2 ≤ 52 := by
      rcases Nat.eq_zero_or_pos mantissa with rfl | filled
      · exact Nat.zero_le _
      · have := (Nat.log2_lt filled.ne').mpr (lt_of_le_of_ne short other)
        omega
    rw [excess]
    omega

/-- The mantissa with which rounding goes on, before it is seen whether it is still short enough. -/
def rounded (mantissa : Nat) (exponent : Int) : Nat :=
  (ExtendedMantissa.ofMantissaAndAccuracy mantissa .exact >>>
    excess mantissa exponent).roundedMantissa

theorem rounded_spec {mantissa : Nat} {exponent : Int} (filled : 0 < mantissa)
    (settled : exponent ≤ -1074 ∨ 2 ^ 52 ≤ mantissa) :
    rounded mantissa exponent ≤ 2 ^ 53 ∧
      (exponent + excess mantissa exponent = -1074 ∨ 2 ^ 52 ≤ rounded mantissa exponent) ∧
      (-1074 ≤ exponent → 0 < rounded mantissa exponent) ∧
      (rounded mantissa exponent = 2 ^ 53 ↔
        (2 ^ 54 - 1) * 2 ^ excess mantissa exponent ≤ 2 * mantissa) := by
  rcases excess_spec filled settled with ⟨low, above, below⟩
  have bit := roundBit_shiftRight mantissa (excess mantissa exponent)
  have kept := mantissa_shiftRight (ExtendedMantissa.ofMantissaAndAccuracy mantissa .exact)
    (excess mantissa exponent)
  rcases roundedMantissa_spec
    (ExtendedMantissa.ofMantissaAndAccuracy mantissa .exact >>> excess mantissa exponent) with
    ⟨kept_least, most, up⟩
  rw [kept] at kept_least most up
  rw [bit, decide_eq_true_eq] at up
  change mantissa / _ ≤ rounded mantissa exponent at kept_least
  change rounded mantissa exponent ≤ mantissa / _ + 1 at most
  change mantissa / _ % 2 = 1 → (rounded mantissa exponent = mantissa / _ + 1 ↔ _) at up
  have power := Nat.two_pow_pos (excess mantissa exponent)
  have short : mantissa / 2 ^ excess mantissa exponent < 2 ^ 53 := by
    rwa [Nat.div_lt_iff_lt_mul power, ← Nat.pow_add]
  have half : 2 * mantissa / 2 ^ excess mantissa exponent / 2 =
      mantissa / 2 ^ excess mantissa exponent := by
    rw [Nat.div_div_eq_div_mul, Nat.mul_comm, Nat.mul_div_mul_right _ _ Nat.two_pos]
  refine ⟨by omega, ?_, ?_, ?_⟩
  · rcases below with least | whole
    · exact .inl least
    · rw [Nat.pow_add, ← Nat.le_div_iff_mul_le power] at whole
      exact .inr (whole.trans kept_least)
  · intro ordinary
    rcases below with least | whole
    · obtain none : excess mantissa exponent = 0 := by omega
      rw [none, Nat.pow_zero, Nat.div_one] at kept_least
      omega
    · rw [Nat.pow_add, ← Nat.le_div_iff_mul_le power] at whole
      omega
  · rw [← Nat.le_div_iff_mul_le power]
    omega

/-- A mantissa is rounded to the nearest one that it may become. -/
theorem nearest_rounded {mantissa : Nat} {exponent : Int} (filled : 0 < mantissa)
    (settled : exponent ≤ -1074 ∨ 2 ^ 52 ≤ mantissa)
    (storable : Storable ((rounded mantissa exponent : Int) *
      2 ^ (exponent + excess mantissa exponent))) :
    Nearest (mantissa * 2 ^ exponent) ((rounded mantissa exponent : Int) *
      2 ^ (exponent + excess mantissa exponent)) := by
  rcases excess_spec filled settled with ⟨-, -, full⟩
  have power := power_pos exponent
  have half := (leaves_shiftRight mantissa (excess mantissa exponent)).half
  change 2 * mantissa ≤ 2 * rounded mantissa exponent * _ + _ ∧
    2 * rounded mantissa exponent * _ ≤ _ at half
  have width : (2 : Rat) ^ (exponent + excess mantissa exponent : Int) =
      2 ^ excess mantissa exponent * 2 ^ exponent := by
    rw [zpow_add₀ two_ne_zero, zpow_natCast, mul_comm]
  refine nearest_of_half storable ?_ ?_
  · have above : (2 * mantissa : Rat) ≤ 2 * (rounded mantissa exponent : Int) *
        2 ^ excess mantissa exponent + 2 ^ excess mantissa exponent := by
      exact_mod_cast half.1
    have below : (2 * (rounded mantissa exponent : Int) * 2 ^ excess mantissa exponent : Rat) ≤
        2 * mantissa + 2 ^ excess mantissa exponent := by
      exact_mod_cast half.2
    have within : 2 * |(mantissa : Rat) - (rounded mantissa exponent : Int) *
        2 ^ excess mantissa exponent| ≤ 2 ^ excess mantissa exponent := by
      rw [← le_div_iff₀' two_pos]
      exact abs_le.mpr ⟨by linarith, by linarith⟩
    rw [width, ← mul_assoc, ← sub_mul, abs_mul, abs_of_pos power, ← mul_assoc]
    exact mul_le_mul_of_nonneg_right within power.le
  · refine full.imp_right fun full => ?_
    have cast : (2 ^ (52 + excess mantissa exponent) : Rat) ≤ mantissa := by exact_mod_cast full
    rw [width, ← mul_assoc, ← pow_add]
    exact mul_le_mul_of_nonneg_right cast power.le

theorem roundWithAccuracy_cases (sign : Sign) {mantissa : Nat} {exponent : Int}
    (filled : 0 < mantissa) (settled : exponent ≤ -1074 ∨ 2 ^ 52 ≤ mantissa) :
    (rounded mantissa exponent = 0 ∧
        roundWithAccuracy .binary64 sign mantissa exponent .exact = .zero sign) ∨
      ∃ (final : Nat) (place : Int) (positive : 0 < final),
        roundWithAccuracy .binary64 sign mantissa exponent .exact =
            .finite sign final place positive ∧
          (rounded mantissa exponent < 2 ^ 53 ∧ final = rounded mantissa exponent ∧
              place = exponent + excess mantissa exponent ∨
            rounded mantissa exponent = 2 ^ 53 ∧ final = 2 ^ 52 ∧
              place = exponent + excess mantissa exponent + 1) := by
  have low := (excess_spec filled settled).1
  have short := (rounded_spec filled settled).1
  have second := excess_rounded short low
  have again := shiftToTargetExponent_eq (rounded mantissa exponent)
    (exponent + excess mantissa exponent)
  have kept := mantissa_shiftRight
    (ExtendedMantissa.ofMantissaAndAccuracy (rounded mantissa exponent) .exact)
    (excess (rounded mantissa exponent) (exponent + excess mantissa exponent))
  change _ = rounded mantissa exponent / _ at kept
  rw [roundWithAccuracy, shiftToTargetExponent_eq]
  dsimp only
  rw [← rounded]
  generalize shiftToTargetExponent .binary64 (rounded mantissa exponent)
    (exponent + excess mantissa exponent) .exact = final at again ⊢
  have shown : final.1.mantissa = rounded mantissa exponent /
      2 ^ excess (rounded mantissa exponent) (exponent + excess mantissa exponent) := again ▸ kept
  have place : final.2 = exponent + excess mantissa exponent +
      excess (rounded mantissa exponent) (exponent + excess mantissa exponent) := by
    rw [again]
  rw [second] at shown place
  rcases Nat.lt_or_eq_of_le short with short | whole
  · rw [if_neg short.ne, Nat.pow_zero, Nat.div_one] at shown
    rw [if_neg short.ne] at place
    split
    · rename_i none
      exact .inl ⟨shown ▸ none, rfl⟩
    · rename_i some
      exact .inr ⟨_, _, Nat.pos_of_ne_zero some, rfl, .inl ⟨short, shown, by omega⟩⟩
  · rw [if_pos whole, whole] at shown
    rw [if_pos whole] at place
    rw [dif_neg (by omega)]
    exact .inr ⟨_, _, by omega, rfl, .inr ⟨whole, by omega, by omega⟩⟩

end Shifting

/--
Where rounding begins to overflow: the middle between the greatest finite double and the power of
two above it.
-/
def limit (scale : Nat) : Nat := (2 ^ 54 - 1) * 2 ^ (970 + scale)

theorem limit_pos (scale : Nat) : 0 < limit scale :=
  Nat.mul_pos (by decide) (Nat.two_pow_pos _)

theorem lt_limit {mantissa count scale : Nat} (short : mantissa < 2 ^ 53)
    (low : count ≤ 971 + scale) : mantissa * 2 ^ count < limit scale := by
  calc mantissa * 2 ^ count
      ≤ (2 ^ 53 - 1) * 2 ^ (970 + scale + 1) :=
        Nat.mul_le_mul (by omega) (Nat.pow_le_pow_right Nat.two_pos (by omega))
    _ = (2 ^ 54 - 2) * 2 ^ (970 + scale) := by
        rw [Nat.pow_succ']
        omega
    _ < limit scale := Nat.mul_lt_mul_of_pos_right (by decide) (Nat.two_pow_pos _)

/-- What an exact result, counted in the given power of one half, may become. -/
structure Rounded (scale : Nat) (exact : Int) (value : UnpackedFloat) : Prop where
  number : value.isNaN = false
  nonneg : 0 ≤ exact → 0 ≤ place value
  positive : scale ≤ 1074 → 0 < exact → 0 < place value
  finite : value.isFinite = true ↔ exact.natAbs < limit scale
  nearest : value.isFinite = true → Nearest (exact / 2 ^ scale) (amount value)

/-- Rounding overflows where the bits below the greatest mantissa round it up. -/
theorem overflows_iff {mantissa : Nat} {exponent : Int} (filled : 0 < mantissa)
    (settled : exponent ≤ -1074 ∨ 2 ^ 52 ≤ mantissa) {scale : Nat} (scaled : 0 ≤ exponent + scale) :
    (971 < exponent + excess mantissa exponent ∨
        exponent + excess mantissa exponent = 971 ∧ rounded mantissa exponent = 2 ^ 53) ↔
      limit scale ≤ mantissa * 2 ^ (exponent + scale).toNat := by
  rcases excess_spec filled settled with ⟨low, above, below⟩
  have up := (rounded_spec filled settled).2.2.2
  have total : excess mantissa exponent + (exponent + scale).toNat =
      (exponent + excess mantissa exponent + scale).toNat := by omega
  have lift := Nat.two_pow_pos (exponent + scale).toNat
  rw [limit]
  rcases Int.lt_trichotomy (exponent + excess mantissa exponent) 971 with less | same | more
  · refine iff_of_false (by omega) (Nat.not_le.mpr ?_)
    calc mantissa * 2 ^ (exponent + scale).toNat
        < 2 ^ (53 + excess mantissa exponent) * 2 ^ (exponent + scale).toNat :=
          Nat.mul_lt_mul_of_pos_right above lift
      _ = 2 ^ (53 + (exponent + excess mantissa exponent + scale).toNat) := by
          rw [← Nat.pow_add, Nat.add_assoc, total]
      _ ≤ 2 ^ (53 + (970 + scale)) := Nat.pow_le_pow_right Nat.two_pos (by omega)
      _ ≤ (2 ^ 54 - 1) * 2 ^ (970 + scale) := by
          rw [Nat.pow_add]
          exact Nat.mul_le_mul_right _ (by decide)
  · have whole : 2 ^ excess mantissa exponent * 2 ^ (exponent + scale).toNat =
        2 * 2 ^ (970 + scale) := by
      rw [← Nat.pow_add, total, same, ← Nat.pow_succ']
      congr 1
      omega
    have scaledUp : (2 ^ 54 - 1) * 2 ^ excess mantissa exponent ≤ 2 * mantissa ↔
        (2 ^ 54 - 1) * (2 * 2 ^ (970 + scale)) ≤
          2 * (mantissa * 2 ^ (exponent + scale).toNat) := by
      rw [← whole, ← Nat.mul_assoc, ← Nat.mul_assoc, Nat.mul_le_mul_right_iff lift]
    rw [up, scaledUp]
    constructor
    · rintro (impossible | ⟨-, le⟩)
      · omega
      · omega
    · intro le
      exact .inr ⟨same, by omega⟩
  · refine iff_of_true (.inl more) ?_
    have full : 2 ^ (52 + excess mantissa exponent) ≤ mantissa := by
      rcases below with least | full
      · omega
      · exact full
    calc (2 ^ 54 - 1) * 2 ^ (970 + scale)
        ≤ 2 ^ 54 * 2 ^ (970 + scale) := Nat.mul_le_mul_right _ (by decide)
      _ = 2 ^ (54 + (970 + scale)) := (Nat.pow_add 2 54 _).symm
      _ ≤ 2 ^ (52 + (exponent + excess mantissa exponent + scale).toNat) :=
          Nat.pow_le_pow_right Nat.two_pos (by omega)
      _ = 2 ^ (52 + excess mantissa exponent) * 2 ^ (exponent + scale).toNat := by
          rw [← Nat.pow_add, Nat.add_assoc, total]
      _ ≤ mantissa * 2 ^ (exponent + scale).toNat := Nat.mul_le_mul_right _ full

theorem apply_nonneg {sign : Sign} {size : Nat} (filled : 0 < size) :
    0 ≤ sign.apply size ↔ sign = .positive := by
  cases sign with
  | negative => exact iff_of_false (by simp only [Sign.apply]; omega) nofun
  | positive => exact iff_of_true (by simp only [Sign.apply]; omega) rfl

theorem natAbs_apply (sign : Sign) (size : Nat) : (sign.apply size).natAbs = size := by
  cases sign <;> simp only [Sign.apply] <;> omega

theorem rounded_zero (scale : Nat) (sign : Sign) : Rounded scale 0 (.zero sign) :=
  ⟨rfl, fun _ => le_refl _, fun _ less => absurd less (lt_irrefl _),
    iff_of_true rfl (limit_pos scale), fun _ => by
      rw [amount_zero, Int.cast_zero, zero_div]
      exact .of_storable .zero⟩

theorem amount_packed {sign : Sign} {mantissa : Nat} {exponent : Int} (positive : 0 < mantissa)
    (short : mantissa < 2 ^ 53) (low : -1074 ≤ exponent) (high : exponent ≤ 971)
    (full : exponent = -1074 ∨ 2 ^ 52 ≤ mantissa) :
    amount (packed (.finite sign mantissa exponent positive)) =
      sign.apply mantissa * 2 ^ exponent := by
  rcases @place_packed sign _ _ positive short low high full with ⟨finite, same⟩
  rw [← amount_finite sign positive low]
  exact (amount_eq_iff (canonical_packed _) (.finite sign _ _ positive short low high full) finite
    rfl).mpr same

/-- A finite result of rounding is the number nearest to what was rounded. -/
theorem nearest_roundWithAccuracy (sign : Sign) {mantissa : Nat} {exponent : Int}
    (filled : 0 < mantissa) (settled : exponent ≤ -1074 ∨ 2 ^ 52 ≤ mantissa)
    (finite : (packed (roundWithAccuracy .binary64 sign mantissa exponent .exact)).isFinite =
      true) :
    Nearest (sign.apply mantissa * 2 ^ exponent)
      (amount (packed (roundWithAccuracy .binary64 sign mantissa exponent .exact))) := by
  have storable := (canonical_packed
    (roundWithAccuracy .binary64 sign mantissa exponent .exact)).storable
  have low := (excess_spec filled settled).1
  have same : amount (packed (roundWithAccuracy .binary64 sign mantissa exponent .exact)) =
      sign.apply (rounded mantissa exponent) * 2 ^ (exponent + excess mantissa exponent) := by
    rcases roundWithAccuracy_cases sign filled settled with
      ⟨none, result⟩ | ⟨final, exponent', positive, result, how⟩
    · rw [result, packed_zero, amount_zero, none]
      cases sign <;> simp [Sign.apply]
    · rw [result] at finite ⊢
      rcases lt_or_ge 971 exponent' with high | high
      · rw [packed_finite sign positive high] at finite
        cases finite
      · have full := (rounded_spec filled settled).2.1
        rw [amount_packed positive (by omega) (by omega) high (by omega)]
        rcases how with ⟨-, rfl, rfl⟩ | ⟨whole, rfl, rfl⟩
        · rfl
        · rw [whole, zpow_add_one₀ two_ne_zero]
          cases sign <;> simp only [Sign.apply] <;> push_cast <;> ring
  rw [same] at storable ⊢
  cases sign with
  | positive => exact nearest_rounded filled settled storable
  | negative =>
      rw [Sign.apply, Int.cast_neg, neg_mul] at storable
      have kept := storable.neg
      rw [neg_neg] at kept
      rw [Sign.apply, Sign.apply, Int.cast_neg, Int.cast_neg, neg_mul, neg_mul]
      exact (nearest_rounded filled settled kept).neg

theorem rounded_roundWithAccuracy (sign : Sign) {mantissa : Nat} {exponent : Int}
    (filled : 0 < mantissa) (settled : exponent ≤ -1074 ∨ 2 ^ 52 ≤ mantissa) {scale : Nat}
    (scaled : 0 ≤ exponent + scale) :
    Rounded scale (sign.apply ↑(mantissa * 2 ^ (exponent + scale).toNat))
      (packed (roundWithAccuracy .binary64 sign mantissa exponent .exact)) := by
  have size : 0 < mantissa * 2 ^ (exponent + scale).toNat :=
    Nat.mul_pos filled (Nat.two_pow_pos _)
  have exceeds := overflows_iff filled settled scaled
  have low := (excess_spec filled settled).1
  rcases rounded_spec filled settled with ⟨-, full, ordinary, -⟩
  have within (value : UnpackedFloat) : (value.isFinite = true ↔
      (sign.apply ↑(mantissa * 2 ^ (exponent + scale).toNat)).natAbs <
        limit scale) ↔
      (value.isFinite = true ↔ ¬ (971 < exponent + excess mantissa exponent ∨
        exponent + excess mantissa exponent = 971 ∧ rounded mantissa exponent = 2 ^ 53)) := by
    rw [natAbs_apply, exceeds, Nat.not_le]
  have nearest := nearest_roundWithAccuracy sign filled settled
  rw [← apply_scaled sign mantissa scaled] at nearest
  rcases roundWithAccuracy_cases sign filled settled with
    ⟨none, result⟩ | ⟨final, exponent', positive, result, how⟩
  · rw [result, packed_zero] at nearest ⊢
    refine ⟨rfl, fun _ => le_refl _, ?_, (within _).mpr (iff_of_true rfl ?_), nearest⟩
    · intro fine less
      have := ordinary (by omega)
      omega
    · omega
  · rw [result] at nearest ⊢
    rcases lt_or_ge 971 exponent' with high | high
    · rw [packed_finite sign positive high]
      refine ⟨rfl, ?_, ?_, (within _).mpr (iff_of_false nofun ?_), nofun⟩
      · intro nonneg
        rw [(apply_nonneg size).mp nonneg]
        decide
      · intro _ less
        rw [(apply_nonneg size).mp less.le]
        decide
      · omega
    · have kept := @place_packed sign _ _ positive (by omega) (by omega) high (by omega)
      have ahead (nonneg : 0 ≤ sign.apply ↑(mantissa * 2 ^ (exponent + scale).toNat)) :
          0 < place (packed (.finite sign final exponent' positive)) := by
        rw [kept.2, (apply_nonneg size).mp nonneg, place, Sign.apply]
        omega
      refine ⟨((canonical_packed _).isFinite_iff.mp kept.1).1, fun nonneg => (ahead nonneg).le,
        fun _ less => ahead less.le, (within _).mpr (iff_of_true kept.1 ?_), nearest⟩
      omega

end SeriesQuery.Double
