import Mathlib.Data.List.Induction
import SeriesQuery.Decimal.Basic
/-!
Digits and the numbers they denote. Each positive number has one row of digits that does not start
with a zero; every other row of digits for it is that one with zeros in front.
-/
namespace SeriesQuery.Decimal

theorem digitsValue_concat (digits : List Char) (c : Char) :
    digitsValue (digits ++ [c]) = 10 * digitsValue digits + digitValue c := by
  simp [digitsValue, List.foldl_append]

theorem digitsValue_toDigits (number : Nat) : digitsValue (Nat.toDigits 10 number) = number :=
  Nat.ofDigitChars_toDigits (by decide) (by decide)

theorem digitsValue_zeros_append (zeros : Nat) (digits : List Char) :
    digitsValue (List.replicate zeros '0' ++ digits) = digitsValue digits := by
  induction zeros with
  | zero => rfl
  | succ zeros ih => exact ih

theorem isDigit_of_mem_toDigits {number : Nat} {c : Char} (member : c ∈ Nat.toDigits 10 number) :
    isDigit c = true :=
  Nat.isDigit_of_mem_toDigits (by decide) (by decide) member

theorem toDigits_of_ten_le {number : Nat} (large : 10 ≤ number) :
    Nat.toDigits 10 number = Nat.toDigits 10 (number / 10) ++ [Nat.digitChar (number % 10)] := by
  rw [Nat.toDigits_of_base_le (by decide) large]

theorem digitValue_lt {c : Char} (digit : isDigit c = true) : digitValue c < 10 := by
  simp only [isDigit, Bool.and_eq_true, decide_eq_true_eq] at digit
  have low : '0'.toNat ≤ c.toNat := digit.1
  have high : c.toNat ≤ '9'.toNat := digit.2
  unfold digitValue
  change c.toNat ≤ 57 at high
  change c.toNat - 48 < 10
  omega

theorem digitChar_digitValue {c : Char} (digit : isDigit c = true) :
    Nat.digitChar (digitValue c) = c := by
  have small := digitValue_lt digit
  simp only [isDigit, Bool.and_eq_true, decide_eq_true_eq] at digit
  have low : 48 ≤ c.toNat := digit.1
  apply Char.toNat_inj.mp
  rw [Nat.toNat_digitChar_of_lt_ten small]
  change 48 + (c.toNat - 48) = c.toNat
  omega

theorem head_toDigits {number : Nat} (positive : 0 < number) :
    (Nat.toDigits 10 number).head? ≠ some '0' := by
  induction number using Nat.strongRecOn with
  | ind number ih =>
      by_cases large : 10 ≤ number
      · have first := ih (number / 10) (by omega) (by omega)
        rw [toDigits_of_ten_le large, List.head?_append]
        cases split : Nat.toDigits 10 (number / 10) with
        | nil => exact absurd split Nat.toDigits_ne_nil
        | cons c rest => rwa [split] at first
      · rw [Nat.toDigits_of_lt_base (by omega), List.head?_cons, Ne, Option.some.injEq,
          Nat.digitChar_eq_zero]
        omega

/-- Digits for nothing are zeros. -/
theorem eq_zeros_of_digitsValue {digits : List Char} (known : ∀ c ∈ digits, isDigit c = true)
    (zero : digitsValue digits = 0) : digits = List.replicate digits.length '0' := by
  induction digits using List.reverseRecOn with
  | nil => rfl
  | append_singleton digits c ih =>
      rw [digitsValue_concat] at zero
      have before := ih (fun d member => known d (List.mem_append_left _ member)) (by omega)
      have last := digitChar_digitValue (known c (by simp))
      have none : digitValue c = 0 := by omega
      rw [none] at last
      rw [List.length_append, List.length_singleton, List.replicate_succ', ← before, ← last]
      rfl

theorem eq_zeros_append_toDigits {digits : List Char} (known : ∀ c ∈ digits, isDigit c = true)
    (positive : 0 < digitsValue digits) :
    ∃ zeros, digits = List.replicate zeros '0' ++ Nat.toDigits 10 (digitsValue digits) := by
  induction digits using List.reverseRecOn with
  | nil => cases positive
  | append_singleton digits c ih =>
      have earlier : ∀ d ∈ digits, isDigit d = true :=
        fun d member => known d (List.mem_append_left _ member)
      have digit := known c (by simp)
      have small := digitValue_lt digit
      have last := digitChar_digitValue digit
      rw [digitsValue_concat] at positive ⊢
      rcases Nat.eq_zero_or_pos (digitsValue digits) with zero | filled
      · refine ⟨digits.length, ?_⟩
        rw [zero, Nat.mul_zero, Nat.zero_add, Nat.toDigits_of_lt_base small, last]
        exact congrArg (· ++ [c]) (eq_zeros_of_digitsValue earlier zero)
      · rcases ih earlier filled with ⟨zeros, split⟩
        refine ⟨zeros, ?_⟩
        rw [toDigits_of_ten_le (by omega),
          show (10 * digitsValue digits + digitValue c) / 10 = digitsValue digits by omega,
          show (10 * digitsValue digits + digitValue c) % 10 = digitValue c by omega, last,
          ← List.append_assoc, ← split]

end SeriesQuery.Decimal
