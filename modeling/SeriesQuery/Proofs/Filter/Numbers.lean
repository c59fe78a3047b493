import SeriesQuery.Proofs.Filter.Words
/-!
The scan of a number: what it passes over is bare, and it is the same in front of any text that
does not go on with a bare character.
-/
namespace SeriesQuery.Filter

open Text

theorem isKeyChar_of_isDigit {c : Char} (digit : Decimal.isDigit c = true) :
    isKeyChar c = true := by
  have first : ∃ others, decimalDigits = (0x30, 0x39) :: others := ⟨_, rfl⟩
  rcases first with ⟨others, table⟩
  simp only [Decimal.isDigit, Bool.and_eq_true, decide_eq_true_eq] at digit
  have low : 0x30 ≤ c.toNat := digit.1
  have high : c.toNat ≤ 0x39 := digit.2
  have decimal : isDecimalDigit c = true := by
    rw [isDecimalDigit, table, CodePoints.has, if_neg (by omega), if_pos high]
  simp [isKeyChar, isAlphanumeric, isNumeric, decimal]

def Bare (text : List Char) : Prop := ∀ c ∈ text, isBareChar c = true

theorem Bare.append {left right : List Char} (first : Bare left) (second : Bare right) :
    Bare (left ++ right) := by
  intro c member
  rcases List.mem_append.mp member with member | member
  · exact first c member
  · exact second c member

theorem Bare.startsWith {text : List Char} (bare : Bare text) (written : text ≠ [])
    (rest : List Char) : startsWith isBareChar (text ++ rest) = true :=
  startsWith_of_all written bare rest

theorem exists_digits (text : List Char) :
    ∃ digits, Bare digits ∧ text = digits ++ text.dropWhile Decimal.isDigit := by
  rcases exists_run Decimal.isDigit text with ⟨digits, passed, split⟩
  exact ⟨digits, fun c member => isBareChar_of_isKeyChar (isKeyChar_of_isDigit (passed c member)),
    split⟩

theorem exists_sign (text : List Char) : ∃ sign, Bare sign ∧ text = sign ++ skipSign text := by
  unfold skipSign
  split
  · exact ⟨['+'], by simp [Bare]; decide, rfl⟩
  · exact ⟨['-'], by simp [Bare]; decide, rfl⟩
  · exact ⟨[], by simp [Bare], rfl⟩

theorem exists_exponent {text rest : List Char} (scanned : scanExponent text = .ended rest) :
    ∃ written, Bare written ∧ text = written ++ rest := by
  unfold scanExponent at scanned
  split at scanned
  · cases scanned
    exact ⟨[], by simp [Bare], rfl⟩
  · rename_i mark tail
    split at scanned
    · rename_i marked
      simp only at scanned
      split at scanned
      · cases scanned
        rcases exists_sign tail with ⟨sign, signBare, signed⟩
        rcases exists_digits (skipSign tail) with ⟨digits, digitsBare, run⟩
        have markBare : Bare [mark] := by
          rcases marked with rfl | rfl <;> simp [Bare] <;> decide
        refine ⟨[mark] ++ (sign ++ digits), markBare.append (signBare.append digitsBare), ?_⟩
        simp only [List.append_assoc, List.cons_append, List.nil_append, List.cons.injEq, true_and]
        rw [← run, ← signed]
      · cases scanned
    · cases scanned
      exact ⟨[], by simp [Bare], rfl⟩

/-- The scan by what stands after the point, if there is one. -/
theorem scanNumber_eq (text : List Char) :
    scanNumber text =
      if startsWith Decimal.isDigit (skipSign text) then
        match afterMark ['.'] ((skipSign text).dropWhile Decimal.isDigit) with
        | some tail => scanExponent (tail.dropWhile Decimal.isDigit)
        | none => scanExponent ((skipSign text).dropWhile Decimal.isDigit)
      else
        match afterMark ['.'] (skipSign text) with
        | some tail =>
          if startsWith Decimal.isDigit tail then scanExponent (tail.dropWhile Decimal.isDigit)
          else .noNumber
        | none => .noNumber := by
  have point : ∀ left, (∀ tail, left ≠ '.' :: tail) → afterMark ['.'] left = none := by
    intro left other
    apply Option.eq_none_iff_forall_ne_some.mpr
    intro tail read
    exact other tail (afterMark_eq_some_iff.mp read)
  unfold scanNumber
  simp only
  split
  · split <;> rename_i shape
    · simp [shape, afterMark]
    · rw [point _ shape]
  · split <;> rename_i shape
    · simp [shape, afterMark]
    · rw [point _ shape]

theorem exists_number {text rest : List Char} (scanned : scanNumber text = .ended rest) :
    ∃ written, Bare written ∧ text = written ++ rest := by
  rcases exists_sign text with ⟨sign, signBare, signed⟩
  have pointBare : Bare ['.'] := by simp [Bare]; decide
  suffices unsigned : ∃ written, Bare written ∧ skipSign text = written ++ rest by
    rcases unsigned with ⟨written, bare, split⟩
    exact ⟨sign ++ written, signBare.append bare, by rw [List.append_assoc, ← split, ← signed]⟩
  rw [scanNumber_eq] at scanned
  split at scanned
  · rcases exists_digits (skipSign text) with ⟨whole, wholeBare, run⟩
    split at scanned
    · rename_i tail point
      rcases exists_digits tail with ⟨fraction, fractionBare, split⟩
      rcases exists_exponent scanned with ⟨exponent, exponentBare, ended⟩
      refine ⟨whole ++ (['.'] ++ (fraction ++ exponent)),
        wholeBare.append (pointBare.append (fractionBare.append exponentBare)), ?_⟩
      simp only [List.append_assoc]
      rw [← ended, ← split, ← afterMark_eq_some_iff.mp point, ← run]
    · rcases exists_exponent scanned with ⟨exponent, exponentBare, ended⟩
      refine ⟨whole ++ exponent, wholeBare.append exponentBare, ?_⟩
      rw [List.append_assoc, ← ended, ← run]
  · split at scanned
    · rename_i tail point
      split at scanned
      · rcases exists_digits tail with ⟨fraction, fractionBare, split⟩
        rcases exists_exponent scanned with ⟨exponent, exponentBare, ended⟩
        refine ⟨['.'] ++ (fraction ++ exponent),
          pointBare.append (fractionBare.append exponentBare), ?_⟩
        simp only [List.append_assoc]
        rw [← ended, ← split, ← afterMark_eq_some_iff.mp point]
      · cases scanned
    · cases scanned

theorem head_of_number {c : Char} {tail rest : List Char}
    (scanned : scanNumber (c :: tail) = .ended rest) :
    c = '+' ∨ c = '-' ∨ c = '.' ∨ Decimal.isDigit c = true := by
  by_cases plus : c = '+'
  · exact .inl plus
  · by_cases minus : c = '-'
    · exact .inr (.inl minus)
    · have unsigned : skipSign (c :: tail) = c :: tail := by
        unfold skipSign
        split <;> simp_all
      rw [scanNumber_eq, unsigned, startsWith_cons] at scanned
      cases digit : Decimal.isDigit c with
      | true => exact .inr (.inr (.inr rfl))
      | false =>
          by_cases point : c = '.'
          · exact .inr (.inr (.inl point))
          · simp [digit, afterMark, point] at scanned

/-- The same scan in front of more text. -/
def Scan.extend (scan : Scan) (rest : List Char) : Scan :=
  match scan with
  | ended left => ended (left ++ rest)
  | missingDigit left => missingDigit (left ++ rest)
  | noNumber => noNumber

section Extend

variable {rest : List Char} (ends : startsWith isBareChar rest = false)

include ends

theorem ends_of_bare {test : Char → Bool} (bare : ∀ c, test c = true → isBareChar c = true) :
    startsWith test rest = false :=
  startsWith_mono bare ends

theorem ends_digits : startsWith Decimal.isDigit rest = false :=
  ends_of_bare ends fun _ digit => isBareChar_of_isKeyChar (isKeyChar_of_isDigit digit)

theorem head_ne {c d : Char} {tail : List Char} (bare : isBareChar d = true)
    (split : rest = c :: tail) : c ≠ d := by
  intro same
  subst same
  rw [split, startsWith_cons, bare] at ends
  cases ends

theorem skipSign_append (text : List Char) : skipSign (text ++ rest) = skipSign text ++ rest := by
  cases text with
  | nil =>
      cases split : rest with
      | nil => rfl
      | cons c tail =>
          have plus := head_ne ends (d := '+') (by decide) split
          have minus := head_ne ends (d := '-') (by decide) split
          simp [skipSign, plus, minus]
  | cons c tail =>
      unfold skipSign
      simp only [List.cons_append]
      split <;> simp_all

theorem startsWith_digits_append (text : List Char) :
    startsWith Decimal.isDigit (text ++ rest) = startsWith Decimal.isDigit text := by
  cases text with
  | nil => exact ends_digits ends
  | cons c tail => rfl

theorem dropWhile_digits_append (text : List Char) :
    (text ++ rest).dropWhile Decimal.isDigit = text.dropWhile Decimal.isDigit ++ rest := by
  induction text with
  | nil => exact @dropWhile_run _ [] rest (by simp) (ends_digits ends)
  | cons c tail ih =>
      cases digit : Decimal.isDigit c <;> simp [digit, ih]

theorem scanExponent_append (text : List Char) :
    scanExponent (text ++ rest) = (scanExponent text).extend rest := by
  cases text with
  | nil =>
      cases split : rest with
      | nil => rfl
      | cons c tail =>
          have small := head_ne ends (d := 'e') (by decide) split
          have large := head_ne ends (d := 'E') (by decide) split
          simp [scanExponent, small, large, Scan.extend]
  | cons mark tail =>
      simp only [List.cons_append, scanExponent, skipSign_append ends,
        startsWith_digits_append ends, dropWhile_digits_append ends]
      split
      · split <;> rfl
      · rfl

theorem afterPoint_append (text : List Char) :
    afterMark ['.'] (text ++ rest) = (afterMark ['.'] text).map (· ++ rest) := by
  cases text with
  | nil =>
      cases split : rest with
      | nil => rfl
      | cons c tail =>
          have other := head_ne ends (d := '.') (by decide) split
          simp [afterMark, other]
  | cons c tail =>
      by_cases point : c = '.' <;> simp [afterMark, point]

theorem scanNumber_append (text : List Char) :
    scanNumber (text ++ rest) = (scanNumber text).extend rest := by
  simp only [scanNumber_eq, skipSign_append ends, startsWith_digits_append ends,
    dropWhile_digits_append ends, afterPoint_append ends]
  split
  · cases afterMark ['.'] ((skipSign text).dropWhile Decimal.isDigit) with
    | none => exact scanExponent_append ends _
    | some tail =>
        simp only [Option.map_some, dropWhile_digits_append ends]
        exact scanExponent_append ends _
  · cases afterMark ['.'] (skipSign text) with
    | none => rfl
    | some tail =>
        simp only [Option.map_some, startsWith_digits_append ends, dropWhile_digits_append ends,
          scanExponent_append ends]
        split <;> rfl

end Extend

end SeriesQuery.Filter
