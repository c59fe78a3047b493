import SeriesQuery.Proofs.Double.Naturals
import SeriesQuery.Proofs.Reducer.Interpolation
/-!
Ranks of percentiles in doubles. Among fewer values than doubles can tell apart the rank of a
percentile is in the list, and what it has left beyond its whole part is exact.
-/
namespace SeriesQuery.Double

open SpaceReducer

section Within

variable {last number : Nat} {reached : Float}

/-- A rank within a list is a finite double in its range. -/
theorem within_iff (small : last < 2 ^ 53) :
    Scalar.Within last reached ↔ reached.isFinite = true ∧ 0 ≤ amount (value reached) ∧
      amount (value reached) ≤ last := by
  rcases ofNat_exact small with ⟨finite, exact⟩
  rcases ofNat_exact (by decide : 0 < 2 ^ 53) with ⟨finite', exact'⟩
  rw [Nat.cast_zero] at exact'
  have bounds (finite'' : reached.isFinite = true) : Scalar.Within last reached ↔
      0 ≤ amount (value reached) ∧ amount (value reached) ≤ last := by
    change Float.ofNat 0 ≤ reached ∧ reached ≤ Float.ofNat last ↔ _
    rw [le_iff_amount finite' finite'', le_iff_amount finite'' finite, exact, exact']
  constructor
  · intro within
    have finite'' : reached.isFinite = true :=
      Scalar.Ranked.isFinite_of_between finite' finite within.1 within.2
    exact ⟨finite'', (bounds finite'').mp within⟩
  · rintro ⟨finite'', between⟩
    exact (bounds finite'').mpr between

theorem lower_eq (small : last < 2 ^ 53) (within : Scalar.Within last reached) :
    lower reached = ⌊amount (value reached)⌋₊ := by
  rcases (within_iff small).mp within with ⟨finite, nonneg, most⟩
  exact floor_eq finite nonneg most (small.trans (by decide))

theorem lower_between (small : last < 2 ^ 53) (within : Scalar.Within last reached) :
    lower reached < 2 ^ 53 ∧ (lower reached : Rat) ≤ amount (value reached) ∧
      amount (value reached) < lower reached + 1 := by
  rcases (within_iff small).mp within with ⟨-, nonneg, most⟩
  rw [lower_eq small within]
  have le := Nat.floor_le nonneg
  have cast : ⌊amount (value reached)⌋₊ ≤ last := by exact_mod_cast le.trans most
  exact ⟨cast.trans_lt small, le, Nat.lt_floor_add_one _⟩

/-- What a rank has left beyond its whole part is exact. -/
theorem fraction_eq (small : last < 2 ^ 53) (within : Scalar.Within last reached) :
    (reached - Float.ofNat (lower reached)).isFinite = true ∧
      amount (value (reached - Float.ofNat (lower reached))) =
        amount (value reached) - lower reached := by
  rcases (within_iff small).mp within with ⟨finite, nonneg, -⟩
  rcases lower_between small within with ⟨short, low, high⟩
  rcases ofNat_exact short with ⟨finite', exact⟩
  have bounded := isFinite_sub_of_nonneg finite finite' ((nonneg_iff finite).mpr nonneg)
    (ofNat_nonneg short)
  have nearest := nearest_sub finite finite' bounded
  rw [exact] at nearest
  exact ⟨bounded, nearest.eq ((storable_value reached).fraction low high)⟩

theorem between_of_within (small : last < 2 ^ 53) (within : Scalar.Within last reached)
    {low high : Float} (finite : low.isFinite = true) (finite' : high.isFinite = true)
    (le : low ≤ high) (wide : (high - low).isFinite = true) :
    Between low high (reached - Float.ofNat (lower reached)) := by
  rcases fraction_eq small within with ⟨bounded, same⟩
  rcases lower_between small within with ⟨-, nonneg, less⟩
  refine ⟨finite, finite', bounded, (le_iff_amount finite finite').mp le, wide, ?_, ?_⟩
  · rw [same]
    linarith
  · rw [same]
    linarith

end Within

section Percent

theorem percentOf_succ : ∀ percent < 100,
    (percentOf percent : Float) ≤ percentOf (percent + 1) := by
  decide +kernel

theorem isNaN_percentOf {percent : Nat} (small : percent < 2 ^ 53) :
    (percentOf percent : Float).isNaN = false :=
  isNaN_div (isNaN_of_isFinite (ofNat_exact small).1) (by decide) (by decide)

theorem percentOf_mono {percent other : Nat} (le : percent ≤ other) (whole : other ≤ 100) :
    (percentOf percent : Float) ≤ percentOf other := by
  induction other, le using Nat.le_induction with
  | base => exact Scalar.Ranked.refl (isNaN_percentOf (by omega))
  | succ other _ ih =>
      exact Scalar.Ranked.trans (ih (Nat.le_of_succ_le whole)) (percentOf_succ other whole)

/-- Percents are parts of one. -/
theorem percentOf_between {percent : Nat} (whole : percent ≤ 100) :
    (percentOf percent : Float).isFinite = true ∧ (0 : Float) ≤ percentOf percent ∧
      (percentOf percent : Float) ≤ 1 := by
  have none : (percentOf 0 : Float) = 0 := rfl
  have all : (percentOf 100 : Float) = 1 := rfl
  have low := percentOf_mono (Nat.zero_le percent) whole
  have high := percentOf_mono whole (le_refl 100)
  rw [none] at low
  rw [all] at high
  exact ⟨Scalar.Ranked.isFinite_of_between rfl rfl low high, low, high⟩

variable {last percent other : Nat}

theorem nearest_rank (small : last < 2 ^ 53) (whole : percent ≤ 100) :
    (rank Float last percent).isFinite = true ∧
      Nearest (amount (value (percentOf percent)) * last)
        (amount (value (rank Float last percent))) := by
  rcases ofNat_exact small with ⟨finite, exact⟩
  rcases percentOf_between whole with ⟨finite', low, high⟩
  have bounded := (part_mul low high finite (ofNat_nonneg small)).1
  have nearest := nearest_mul finite' finite bounded
  rw [exact] at nearest
  exact ⟨bounded, nearest⟩

theorem within_rank (small : last < 2 ^ 53) (whole : percent ≤ 100) :
    Scalar.Within last (rank Float last percent) := by
  rcases nearest_rank small whole with ⟨finite, nearest⟩
  rcases percentOf_between whole with ⟨finite', low, high⟩
  rw [nonneg_iff finite'] at low
  rw [le_one_iff finite'] at high
  have count : (0 : Rat) ≤ last := Nat.cast_nonneg last
  exact (within_iff small).mpr ⟨finite, nearest.ge .zero (mul_nonneg low count),
    nearest.le (storable_natural small) (mul_le_of_le_one_left count high)⟩

theorem rank_mono (small : last < 2 ^ 53) (le : percent ≤ other) (whole : other ≤ 100) :
    rank Float last percent ≤ rank Float last other := by
  rcases ofNat_exact small with ⟨finite, exact⟩
  have bounded := (nearest_rank small (le.trans whole)).1
  have bounded' := (nearest_rank small whole).1
  have some := (percentOf_between (le.trans whole)).1
  have some' := (percentOf_between whole).1
  have flipped (percent : Nat) : rank Float last percent = Float.ofNat last * percentOf percent :=
    double_mul_comm _ _
  rw [le_iff_amount bounded bounded']
  rw [flipped] at bounded bounded'
  rw [flipped, flipped]
  exact amount_mul_le finite some some' bounded bounded' (exact ▸ Nat.cast_nonneg last)
    ((le_iff_amount some some').mp (percentOf_mono le whole))

theorem rank_least (small : last < 2 ^ 53) : rank Float last 0 ≤ Float.ofNat 0 := by
  rcases nearest_rank small (Nat.zero_le 100) with ⟨finite, nearest⟩
  rcases ofNat_exact (by decide : 0 < 2 ^ 53) with ⟨finite', exact⟩
  have none : amount (value (percentOf 0)) = 0 := amount_nought
  rw [none, zero_mul] at nearest
  rw [le_iff_amount finite finite', exact, nearest.eq .zero, Nat.cast_zero]

theorem rank_greatest (small : last < 2 ^ 53) : Float.ofNat last ≤ rank Float last 100 := by
  rcases nearest_rank small (le_refl 100) with ⟨finite, nearest⟩
  rcases ofNat_exact small with ⟨finite', exact⟩
  have all : amount (value (percentOf 100)) = 1 := amount_one
  rw [all, one_mul] at nearest
  rw [le_iff_amount finite' finite, exact, nearest.eq (storable_natural small)]

end Percent

/-- Ranks and lines are in order among fewer values than doubles can tell apart. -/
theorem interpolates {last : Nat} (small : last < 2 ^ 53) : Scalar.Interpolates Float last where
  within_ofNat {number} le := by
    rcases ofNat_exact (le.trans_lt small) with ⟨finite, exact⟩
    exact (within_iff small).mpr ⟨finite, (Nat.cast_nonneg number).trans_eq exact.symm,
      exact.trans_le (by exact_mod_cast le)⟩
  floor_ofNat {number} le := by
    rcases ofNat_exact (le.trans_lt small) with ⟨finite, exact⟩
    have whole := floor_eq finite (exact ▸ Nat.cast_nonneg number) exact.le
      ((le.trans_lt small).trans (by decide))
    rwa [exact, Nat.floor_natCast] at whole
  floor_mono within within' le := by
    have finite := ((within_iff small).mp within).1
    have finite' := ((within_iff small).mp within').1
    change lower _ ≤ lower _
    rw [lower_eq small within, lower_eq small within']
    exact Nat.floor_le_floor ((le_iff_amount finite finite').mp le)
  within_rank := within_rank small
  rank_mono := rank_mono small
  rank_least := rank_least small
  rank_greatest := rank_greatest small
  isFinite_sub_self finite := by
    refine (rounded_value_sub finite finite).finite.mpr ?_
    rw [Int.sub_self]
    exact limit_pos 1074
  onLine_iff finite finite' le within := by
    constructor
    · rintro ⟨low, high⟩
      have bounded := Scalar.Ranked.isFinite_of_between finite finite' low high
      exact (finite_of_mul (finite_of_add bounded).2).1
    · exact fun wide => (between_of_within small within finite finite' le wide).le
  onLine_mono {low high reached other} finite finite' le wide within within' same further := by
    have bounded := ((within_iff small).mp within).1
    have bounded' := ((within_iff small).mp within').1
    refine (between_of_within small within finite finite' le wide).mono
      (between_of_within small within' finite finite' le wide) ?_
    have same : lower reached = lower other := same
    have less : amount (value reached) - lower reached ≤ amount (value other) - lower other := by
      rw [same]
      exact sub_le_sub_right ((le_iff_amount bounded bounded').mp further) _
    exact (fraction_eq small within).2.trans_le
      (less.trans_eq (fraction_eq small within').2.symm)

end SeriesQuery.Double
