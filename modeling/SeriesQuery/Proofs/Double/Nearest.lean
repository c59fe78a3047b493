import Mathlib.Tactic.Ring
import SeriesQuery.Proofs.Double.Words
/-!
What finite doubles stand for, and the nearest of them to an exact result. A part of a rounded
difference, rounded again, does not exceed the exact difference; so a number read off the line
between two doubles lies between them.
-/
namespace SeriesQuery.Double

open Float.Model UnpackedFloat

/-- A finite value as a multiple of the least positive double. -/
def units : UnpackedFloat → Int
  | .finite sign mantissa exponent _ => sign.apply ↑(mantissa * 2 ^ (exponent + 1074).toNat)
  | _ => 0

/-- What a value stands for, if it is finite. -/
def amount (value : UnpackedFloat) : Rat := units value / 2 ^ 1074

/-- A number with a mantissa of 53 bits and no exponent below the least one. -/
def Storable (number : Rat) : Prop :=
  ∃ mantissa exponent : Int, |mantissa| < 2 ^ 53 ∧ -1074 ≤ exponent ∧
    number = mantissa * 2 ^ exponent

/-- The storable numbers to which no other one is nearer than the result. -/
structure Nearest (exact result : Rat) : Prop where
  storable : Storable result
  least : ∀ other, Storable other → |exact - result| ≤ |exact - other|

section Amounts

/-- Larger sizes are larger exact values. -/
theorem size_lt_iff {first second : Nat} {low high : Int} (short : first < 2 ^ 53)
    (short' : second < 2 ^ 53) (bounded : -1074 ≤ low) (bounded' : -1074 ≤ high)
    (full : low = -1074 ∨ 2 ^ 52 ≤ first) (full' : high = -1074 ∨ 2 ^ 52 ≤ second) :
    first * 2 ^ (low + 1074).toNat < second * 2 ^ (high + 1074).toNat ↔
      (low + 1074) * 2 ^ 52 + first < (high + 1074) * 2 ^ 52 + second := by
  have jump {first second : Nat} {low high : Int} (short : first < 2 ^ 53)
      (bounded : -1074 ≤ low) (full : high = -1074 ∨ 2 ^ 52 ≤ second) (less : low < high) :
      first * 2 ^ (low + 1074).toNat < second * 2 ^ (high + 1074).toNat := by
    have whole : 2 ^ 52 ≤ second := by omega
    calc first * 2 ^ (low + 1074).toNat
        < 2 ^ 53 * 2 ^ (low + 1074).toNat := Nat.mul_lt_mul_of_pos_right short (Nat.two_pow_pos _)
      _ = 2 ^ 52 * 2 ^ ((low + 1074).toNat + 1) := by ring
      _ ≤ 2 ^ 52 * 2 ^ (high + 1074).toNat :=
          Nat.mul_le_mul_left _ (Nat.pow_le_pow_right Nat.two_pos (by omega))
      _ ≤ second * 2 ^ (high + 1074).toNat := Nat.mul_le_mul_right _ whole
  rcases Int.lt_trichotomy low high with less | rfl | more
  · exact iff_of_true (jump short bounded full' less) (by omega)
  · rw [Nat.mul_lt_mul_right (Nat.two_pow_pos _)]
    omega
  · exact iff_of_false (jump short' bounded' full more).le.not_gt (by omega)

/-- A finite value by its sign, mantissa and exponent; zero has the least exponent. -/
theorem Canonical.exists_parts {value : UnpackedFloat} (canonical : Canonical value)
    (finite : value.isFinite = true) :
    ∃ (sign : Sign) (mantissa : Nat) (exponent : Int), mantissa < 2 ^ 53 ∧ -1074 ≤ exponent ∧
      exponent ≤ 971 ∧ (exponent = -1074 ∨ 2 ^ 52 ≤ mantissa) ∧
      units value = sign.apply ↑(mantissa * 2 ^ (exponent + 1074).toNat) ∧
      place value = sign.apply ((exponent + 1074) * 2 ^ 52 + mantissa) := by
  cases canonical with
  | notANumber => cases finite
  | infinity sign => cases finite
  | zero sign => exact ⟨.positive, 0, -1074, by decide, by decide, by decide, by decide, rfl, rfl⟩
  | finite sign mantissa exponent positive short low high full =>
      exact ⟨sign, mantissa, exponent, short, low, high, full, rfl, rfl⟩

/-- Finite values are in the order of their exact values. -/
theorem units_lt_iff {a b : UnpackedFloat} (first : Canonical a) (second : Canonical b)
    (finite : a.isFinite = true) (finite' : b.isFinite = true) :
    units a < units b ↔ place a < place b := by
  rcases first.exists_parts finite with ⟨sign, m, e, short, low, -, full, exact, placed⟩
  rcases second.exists_parts finite' with ⟨sign', m', e', short', low', -, full', exact', placed'⟩
  have forward := size_lt_iff short short' low low' full full'
  have backward := size_lt_iff short' short low' low full' full
  have some := size_lt_iff (by decide : 0 < 2 ^ 53) short (by decide) low (.inl rfl) full
  have some' := size_lt_iff (by decide : 0 < 2 ^ 53) short' (by decide) low' (.inl rfl) full'
  rw [exact, exact', placed, placed']
  generalize m * 2 ^ (e + 1074).toNat = size at *
  generalize m' * 2 ^ (e' + 1074).toNat = size' at *
  cases sign <;> cases sign' <;> simp only [Sign.apply] <;> omega

theorem amount_le_iff {a b : UnpackedFloat} (first : Canonical a) (second : Canonical b)
    (finite : a.isFinite = true) (finite' : b.isFinite = true) :
    amount a ≤ amount b ↔ place a ≤ place b := by
  have power : (0 : Rat) < 2 ^ 1074 := by positivity
  rw [amount, amount, div_le_div_iff_of_pos_right power, Int.cast_le, ← not_lt, ← not_lt,
    units_lt_iff second first finite' finite]

theorem amount_eq_iff {a b : UnpackedFloat} (first : Canonical a) (second : Canonical b)
    (finite : a.isFinite = true) (finite' : b.isFinite = true) :
    amount a = amount b ↔ place a = place b := by
  rw [le_antisymm_iff, le_antisymm_iff, amount_le_iff first second finite finite',
    amount_le_iff second first finite' finite]

theorem apply_mul (sign : Sign) (a b : Int) : sign.apply a * b = sign.apply (a * b) := by
  cases sign <;> simp [Sign.apply]

/-- A mantissa scaled up to a whole number and down again. -/
theorem apply_scaled (sign : Sign) (mantissa : Nat) {exponent : Int} {scale : Nat}
    (scaled : 0 ≤ exponent + scale) :
    (sign.apply ↑(mantissa * 2 ^ (exponent + scale).toNat) : Rat) / 2 ^ scale =
      sign.apply mantissa * 2 ^ exponent := by
  have width : ((exponent + scale).toNat : Int) = exponent + scale := Int.toNat_of_nonneg scaled
  rw [Nat.cast_mul, ← apply_mul, Int.cast_mul, Nat.cast_pow, Int.cast_pow, ← zpow_natCast _ scale,
    ← zpow_natCast _ (exponent + scale).toNat, width, mul_div_assoc]
  push_cast
  rw [← zpow_sub₀ two_ne_zero, add_sub_cancel_right]

theorem amount_zero (sign : Sign) : amount (.zero sign) = 0 := by simp [amount, units]

theorem amount_finite (sign : Sign) {mantissa : Nat} {exponent : Int} (positive : 0 < mantissa)
    (low : -1074 ≤ exponent) :
    amount (.finite sign mantissa exponent positive) = sign.apply mantissa * 2 ^ exponent :=
  apply_scaled sign mantissa (by omega : 0 ≤ exponent + (1074 : Nat))

end Amounts

section Storable

variable {number other : Rat}

theorem power_pos (exponent : Int) : (0 : Rat) < 2 ^ exponent := zpow_pos two_pos exponent

theorem power_succ (exponent : Int) : (2 : Rat) ^ exponent = 2 ^ (exponent - 1) * 2 := by
  rw [← zpow_add_one₀ two_ne_zero, sub_add_cancel]

theorem Storable.zero : Storable 0 := ⟨0, 0, by decide, by decide, by simp⟩

theorem Storable.neg (storable : Storable number) : Storable (-number) := by
  rcases storable with ⟨mantissa, exponent, short, low, rfl⟩
  exact ⟨-mantissa, exponent, by rwa [abs_neg], low, by push_cast; ring⟩

/-- A number whose exponent is at least a given one is a multiple of its power of two. -/
theorem exists_multiple {mantissa low exponent : Int} (above : low ≤ exponent) :
    ∃ count : Int, (mantissa * 2 ^ exponent : Rat) = count * 2 ^ low := by
  refine ⟨mantissa * 2 ^ (exponent - low).toNat, ?_⟩
  have width : exponent = (exponent - low).toNat + low := by omega
  rw [width, zpow_add₀ two_ne_zero, zpow_natCast, ← width]
  push_cast
  ring

/-- All storable numbers are multiples of the least power. -/
theorem Storable.exists_count (storable : Storable number) :
    ∃ count : Int, number = count * 2 ^ (-1074 : Int) := by
  rcases storable with ⟨mantissa, exponent, -, low, rfl⟩
  exact exists_multiple low

/-- Numbers that are no multiples of a power of two have a smaller exponent, and so are small. -/
theorem Storable.multiple_or_small (storable : Storable number) (exponent : Int) :
    (∃ count : Int, number = count * 2 ^ exponent) ∨ |number| < 2 ^ 52 * 2 ^ exponent := by
  rcases storable with ⟨mantissa, lower, short, -, rfl⟩
  rcases le_or_gt exponent lower with above | below
  · exact .inl (exists_multiple above)
  · right
    have short : (|mantissa| : Rat) < 2 ^ 53 := by exact_mod_cast short
    rw [abs_mul, abs_of_pos (power_pos lower)]
    calc (|(mantissa : Rat)| * 2 ^ lower : Rat)
        < 2 ^ 53 * 2 ^ lower := mul_lt_mul_of_pos_right short (power_pos lower)
      _ = 2 ^ 52 * 2 ^ (lower + 1) := by rw [zpow_add_one₀ two_ne_zero]; ring
      _ ≤ 2 ^ 52 * 2 ^ exponent :=
          mul_le_mul_of_nonneg_left (zpow_le_zpow_right₀ one_le_two (by omega)) (by norm_num)

theorem storable_apply {mantissa : Nat} {exponent : Int} (sign : Sign) (short : mantissa < 2 ^ 53)
    (low : -1074 ≤ exponent) : Storable (sign.apply mantissa * 2 ^ exponent) :=
  ⟨sign.apply mantissa, exponent, by cases sign <;> simp only [Sign.apply] <;> grind, low, rfl⟩

theorem Canonical.storable {value : UnpackedFloat} (canonical : Canonical value) :
    Storable (amount value) := by
  have zero : Storable (amount (.zero .positive)) := by
    rw [amount_zero]
    exact .zero
  cases canonical with
  | finite sign mantissa exponent positive short low =>
      rw [amount_finite sign positive low]
      exact storable_apply sign short low
  | _ => exact zero

/-- A positive number with its mantissa as long as can be. -/
theorem Storable.exists_full (storable : Storable number) (positive : 0 < number) :
    ∃ mantissa exponent : Int, mantissa < 2 ^ 53 ∧ -1074 ≤ exponent ∧
      (exponent = -1074 ∨ 2 ^ 52 ≤ mantissa) ∧ number = mantissa * 2 ^ exponent := by
  rcases storable with ⟨mantissa, exponent, short, low, rfl⟩
  have filled : 0 < mantissa := by
    exact_mod_cast (pos_iff_pos_of_mul_pos positive).mpr (power_pos exponent)
  rw [abs_of_pos filled] at short
  clear positive
  induction size : (exponent + 1074).toNat generalizing mantissa exponent with
  | zero => exact ⟨mantissa, exponent, short, low, .inl (by omega), rfl⟩
  | succ size ih =>
      by_cases full : 2 ^ 52 ≤ mantissa
      · exact ⟨mantissa, exponent, short, low, .inr full, rfl⟩
      · rcases ih (mantissa * 2) (exponent - 1) (by omega) (by omega) (by omega) (by omega) with
          ⟨longer, lower, short', low', full', same⟩
        refine ⟨longer, lower, short', low', full', same ▸ ?_⟩
        rw [power_succ exponent]
        push_cast
        ring

/-- The greatest number below one is a whole unit of its last place below it. -/
theorem Storable.le_of_lt_one (storable : Storable number) (less : number < 1) :
    number ≤ 1 - 2 ^ (-53 : Int) := by
  rcases storable.multiple_or_small (-53) with ⟨count, rfl⟩ | small
  · have unit : (2 : Rat) ^ (-53 : Int) * 2 ^ 53 = 1 := by norm_num
    have below : count < 2 ^ 53 := by
      have scaled : (count : Rat) < 2 ^ 53 := by nlinarith [power_pos (-53)]
      exact_mod_cast scaled
    have most : (count : Rat) ≤ 2 ^ 53 - 1 := by exact_mod_cast Int.le_sub_one_of_lt below
    nlinarith [power_pos (-53)]
  · have half : (2 : Rat) ^ 52 * 2 ^ (-53 : Int) ≤ 1 - 2 ^ (-53 : Int) := by norm_num
    exact (le_abs_self number).trans (small.le.trans half)

end Storable

section Nearest

variable {exact exact' result result' bound : Rat}

theorem Nearest.of_storable (storable : Storable exact) : Nearest exact exact where
  storable := storable
  least other _ := by
    rw [sub_self, abs_zero]
    exact abs_nonneg _

theorem Nearest.le (nearest : Nearest exact result) (storable : Storable bound)
    (below : exact ≤ bound) : result ≤ bound := by
  have closest := nearest.least bound storable
  by_contra above
  rw [abs_of_nonpos (by linarith), abs_of_nonpos (by linarith)] at closest
  linarith

theorem Nearest.ge (nearest : Nearest exact result) (storable : Storable bound)
    (above : bound ≤ exact) : bound ≤ result := by
  have closest := nearest.least bound storable
  by_contra below
  rw [abs_of_nonneg (by linarith), abs_of_nonneg (by linarith)] at closest
  linarith

theorem Nearest.eq (nearest : Nearest exact result) (storable : Storable exact) :
    result = exact :=
  (nearest.le storable le_rfl).antisymm (nearest.ge storable le_rfl)

theorem Nearest.mono (nearest : Nearest exact result) (nearest' : Nearest exact' result')
    (less : exact < exact') : result ≤ result' := by
  have closest := nearest.least result' nearest'.storable
  have closest' := nearest'.least result nearest.storable
  by_contra fails
  rw [← sq_le_sq] at closest closest'
  have apart : 0 < (exact' - exact) * (result - result') :=
    mul_pos (sub_pos.mpr less) (sub_pos.mpr (not_le.mp fails))
  linarith

theorem Nearest.neg (nearest : Nearest exact result) : Nearest (-exact) (-result) where
  storable := nearest.storable.neg
  least other storable := by
    have closest := nearest.least (-other) storable.neg
    rwa [← abs_neg (exact - result), ← abs_neg (exact - -other), neg_sub', neg_sub',
      neg_neg] at closest

/-- Of the multiples of a number, one at most half of it away is the nearest. -/
theorem multiple_least {unit : Rat} {count : Int} (positive : 0 < unit)
    (half : 2 * |exact - count * unit| ≤ unit) (other : Int) :
    |exact - count * unit| ≤ |exact - other * unit| := by
  rcases eq_or_ne other count with rfl | apart
  · rfl
  · have step : (1 : Rat) ≤ |(other - count : Int)| := by
      exact_mod_cast Int.one_le_abs (sub_ne_zero.mpr apart)
    have wide : unit ≤ |other * unit - count * unit| := by
      rw [← sub_mul, abs_mul, abs_of_pos positive]
      push_cast at step
      exact le_mul_of_one_le_left positive.le step
    have triangle := abs_sub_le (other * unit) exact (count * unit)
    rw [abs_sub_comm (other * unit) exact] at triangle
    linarith

/-- Rounding to the last place of a result that has all its places is rounding to the nearest. -/
theorem nearest_of_half {count exponent : Int} (storable : Storable (count * 2 ^ exponent))
    (half : 2 * |exact - count * 2 ^ exponent| ≤ 2 ^ exponent)
    (full : exponent = -1074 ∨ 2 ^ 52 * 2 ^ exponent ≤ exact) :
    Nearest exact (count * 2 ^ exponent) where
  storable := storable
  least other kept := by
    have among := multiple_least (power_pos exponent) half
    rcases kept.multiple_or_small exponent with ⟨count', rfl⟩ | small
    · exact among count'
    · rcases full with rfl | full
      · rcases kept.exists_count with ⟨count', rfl⟩
        exact among count'
      · have power : ((2 ^ 52 : Int) : Rat) = 2 ^ 52 := by norm_num
        have closer := among (2 ^ 52)
        rw [power] at closer
        have below := (le_abs_self other).trans small.le
        rw [abs_of_nonneg (sub_nonneg.mpr full)] at closer
        rw [abs_of_nonneg (sub_nonneg.mpr (below.trans full))]
        linarith

end Nearest

section Line

variable {low high gap part share result : Rat}

/-- A proper part of a number that has all its places is rounded to less than the number. -/
theorem Nearest.lt_of_part {mantissa exponent : Int} (short : mantissa < 2 ^ 53)
    (full : 2 ^ 52 ≤ mantissa) (deep : -1074 < exponent)
    (proper : part ≤ 1 - 2 ^ (-53 : Int))
    (nearest : Nearest (mantissa * 2 ^ exponent * part) share) :
    share < mantissa * 2 ^ exponent := by
  have unit := power_pos (exponent - 1)
  have width := power_succ exponent
  have lost : mantissa * 2 ^ exponent * part ≤
      mantissa * 2 ^ exponent - mantissa * (2 * 2 ^ (-53 : Int)) * 2 ^ (exponent - 1) := by
    have filled : (0 : Rat) ≤ mantissa * 2 ^ exponent :=
      mul_nonneg (by exact_mod_cast (by omega : 0 ≤ mantissa)) (power_pos exponent).le
    calc (mantissa * 2 ^ exponent * part : Rat)
        ≤ mantissa * 2 ^ exponent * (1 - 2 ^ (-53 : Int)) :=
          mul_le_mul_of_nonneg_left proper filled
      _ = _ := by rw [width]; ring
  have scale : (2 * 2 ^ (-53 : Int) : Rat) = (2 ^ 52)⁻¹ := by norm_num
  rw [scale] at lost
  by_contra above
  rw [not_lt] at above
  rcases eq_or_lt_of_le full with rfl | more
  · -- Just below a power of two the numbers are twice as dense.
    have storable : Storable ((2 ^ 53 - 1 : Int) * 2 ^ (exponent - 1)) :=
      ⟨_, _, by decide, by omega, rfl⟩
    push_cast at lost above storable nearest
    have below := nearest.le storable (by rw [width] at lost ⊢; linarith)
    rw [width] at above
    linarith
  · have storable : Storable ((mantissa - 1 : Int) * 2 ^ exponent) :=
      ⟨_, _, by rw [abs_of_nonneg] <;> omega, deep.le, rfl⟩
    have closest := nearest.least _ storable
    have more' : (1 : Rat) < mantissa * (2 ^ 52)⁻¹ := by
      have cast : (2 ^ 52 : Rat) < mantissa := by exact_mod_cast more
      linarith
    have further := mul_lt_mul_of_pos_right more' unit
    push_cast at closest
    rw [abs_of_nonpos (by linarith)] at closest
    rcases abs_cases ((mantissa : Rat) * 2 ^ exponent * part - (mantissa - 1) * 2 ^ exponent) with
      ⟨same, -⟩ | ⟨same, -⟩
    · rw [same] at closest
      linarith
    · rw [same] at closest
      linarith

/-- A part of a rounded difference does not exceed the exact one. -/
theorem Nearest.share_le (stored : Storable low) (stored' : Storable high) (ordered : low ≤ high)
    (difference : Nearest (high - low) gap) (stored'' : Storable part) (less : part < 1)
    (nearest : Nearest (gap * part) share) : share ≤ high - low := by
  have gap_nonneg : 0 ≤ gap := difference.ge .zero (sub_nonneg.mpr ordered)
  have share_le : share ≤ gap :=
    nearest.le difference.storable (mul_le_of_le_one_right gap_nonneg less.le)
  by_contra above
  rw [not_le] at above
  have reached : gap ≤ share := by
    have closest := difference.least share nearest.storable
    rw [abs_of_neg (by linarith), abs_of_neg (by linarith)] at closest
    linarith
  obtain rfl : share = gap := share_le.antisymm reached
  rcases difference.storable.exists_full (lt_of_le_of_lt (sub_nonneg.mpr ordered) above) with
    ⟨mantissa, exponent, short, deep, full, rfl⟩
  rcases deep.eq_or_lt with rfl | deep
  · -- Differences of the least size are exact.
    have exact : Storable (high - low) := by
      rcases stored.exists_count with ⟨count, rfl⟩
      rcases stored'.exists_count with ⟨count', rfl⟩
      have place := power_pos (-1074)
      rw [← sub_mul] at above ⊢
      have less : count' - count < mantissa := by
        exact_mod_cast lt_of_mul_lt_mul_right above place.le
      have ordered : count ≤ count' := by
        exact_mod_cast le_of_mul_le_mul_right ordered place
      exact ⟨count' - count, -1074, by rw [abs_of_nonneg] <;> omega, le_rfl,
        by rw [Int.cast_sub]⟩
    exact above.ne (difference.eq exact).symm
  · exact (nearest.lt_of_part short (by omega) deep (stored''.le_of_lt_one less)).false

/-- What is read off the line between two numbers lies between them. -/
theorem between_of_nearest (stored : Storable low) (stored' : Storable high)
    (ordered : low ≤ high) (difference : Nearest (high - low) gap) (stored'' : Storable part)
    (nonneg : 0 ≤ part) (less : part < 1) (nearest : Nearest (gap * part) share)
    (sum : Nearest (low + share) result) : low ≤ result ∧ result ≤ high := by
  have gap_nonneg : 0 ≤ gap := difference.ge .zero (sub_nonneg.mpr ordered)
  have share_nonneg : 0 ≤ share := nearest.ge .zero (mul_nonneg gap_nonneg nonneg)
  have share_le := difference.share_le stored stored' ordered stored'' less nearest
  exact ⟨sum.ge stored (by linarith), sum.le stored' (by linarith)⟩

end Line

end SeriesQuery.Double
