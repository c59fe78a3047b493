import SeriesQuery.Proofs.Filter.Numbers
/-!
The grammar of decimal numbers: digits with or without a point, before them perhaps a sign and
after them perhaps an exponent. Main statements: the scan takes a text whole just when it writes a
decimal number, it misses a digit just when an exponent in it has none, and every decimal number is
read as its finite value.
-/
namespace SeriesQuery.Filter

/-! The grammar -/

def Digits (text : List Char) : Prop := ∀ c ∈ text, Decimal.isDigit c = true

/-- A sign that may be absent, and whether it is negative. -/
inductive SignText : Bool → List Char → Prop where
  | absent : SignText false []
  | plus : SignText false ['+']
  | minus : SignText true ['-']

/-- Digits before and after a point; there is at least one. -/
inductive Mantissa : List Char → List Char → List Char → Prop where
  | whole {digits : List Char} (known : Digits digits) (filled : digits ≠ []) :
      Mantissa digits [] digits
  | pointed {digits decimals : List Char} (known : Digits digits) (known' : Digits decimals)
      (filled : digits ≠ [] ∨ decimals ≠ []) :
      Mantissa digits decimals (digits ++ '.' :: decimals)

/-- The mark before an exponent. -/
def ExponentMark (c : Char) : Prop := c = 'e' ∨ c = 'E'

inductive Exponent : Int → List Char → Prop where
  | absent : Exponent 0 []
  | marked {mark : Char} {negative : Bool} {sign digits : List Char} (marks : ExponentMark mark)
      (signed : SignText negative sign) (known : Digits digits) (filled : digits ≠ []) :
      Exponent ((if negative then -1 else 1) * Decimal.digitsValue digits)
        (mark :: (sign ++ digits))

/-- A text that writes a decimal number. -/
inductive DecimalText : Decimal → List Char → Prop where
  | intro {negative : Bool} {sign digits decimals mantissa exponent : List Char} {power : Int}
      (signed : SignText negative sign) (figures : Mantissa digits decimals mantissa)
      (scaled : Exponent power exponent) :
      DecimalText (.ofDigits negative digits decimals power) (sign ++ (mantissa ++ exponent))

/-- No digit comes first, with or without a sign before it. -/
def Digitless (text : List Char) : Prop :=
  ∀ negative sign rest, SignText negative sign → text = sign ++ rest →
    startsWith Decimal.isDigit rest = false

/-- A text that starts like a decimal number with an exponent, but the exponent has no digit. -/
inductive Stranded : List Char → Prop where
  | intro {negative : Bool} {sign digits decimals mantissa rest : List Char} {mark : Char}
      (signed : SignText negative sign) (figures : Mantissa digits decimals mantissa)
      (marks : ExponentMark mark) (missing : Digitless rest) :
      Stranded (sign ++ (mantissa ++ mark :: rest))

/-! Signs -/

def isSign (c : Char) : Bool := c = '+' || c = '-'

theorem SignText.skipSign {negative : Bool} {sign rest : List Char}
    (signed : SignText negative sign) (unsigned : startsWith isSign rest = false) :
    skipSign (sign ++ rest) = rest := by
  cases signed with
  | absent =>
      unfold Filter.skipSign
      rw [List.nil_append]
      split
      · cases unsigned
      · cases unsigned
      · rfl
  | plus => rfl
  | minus => rfl

theorem exists_signText (text : List Char) :
    ∃ negative sign, SignText negative sign ∧ text = sign ++ skipSign text := by
  unfold skipSign
  split
  · exact ⟨false, ['+'], .plus, rfl⟩
  · exact ⟨true, ['-'], .minus, rfl⟩
  · exact ⟨false, [], .absent, rfl⟩

theorem isSign_of_isDigit {c : Char} (digit : Decimal.isDigit c = true) : isSign c = false := by
  apply Bool.eq_false_iff.mpr
  intro sign
  simp only [isSign, Bool.or_eq_true, decide_eq_true_eq] at sign
  rcases sign with rfl | rfl <;> cases digit

theorem unsigned_of_digits {text : List Char} (starts : startsWith Decimal.isDigit text = true) :
    startsWith isSign text = false := by
  cases text with
  | nil => rfl
  | cons c tail => exact isSign_of_isDigit starts

theorem digitless_iff {text : List Char} :
    Digitless text ↔ startsWith Decimal.isDigit (skipSign text) = false := by
  constructor
  · intro missing
    rcases exists_signText text with ⟨negative, sign, signed, split⟩
    exact missing negative sign _ signed split
  · intro missing negative sign rest signed split
    apply Bool.eq_false_iff.mpr
    intro starts
    rw [split, signed.skipSign (unsigned_of_digits starts), starts] at missing
    cases missing

/-! Mantissas -/

theorem Mantissa.unsigned {digits decimals mantissa : List Char}
    (figures : Mantissa digits decimals mantissa) (rest : List Char) :
    startsWith isSign (mantissa ++ rest) = false := by
  cases figures with
  | whole known filled => exact unsigned_of_digits (startsWith_of_all filled known rest)
  | pointed known known' filled =>
      cases digits with
      | nil => rfl
      | cons c tail => exact isSign_of_isDigit (known c List.mem_cons_self)

/-- A mantissa ends where neither a digit nor a point goes on. -/
def goesOnFigures (c : Char) : Bool := Decimal.isDigit c || c = '.'

theorem scanNumber_figures {negative : Bool} {sign digits decimals mantissa rest : List Char}
    (signed : SignText negative sign) (figures : Mantissa digits decimals mantissa)
    (ends : startsWith goesOnFigures rest = false) :
    scanNumber (sign ++ (mantissa ++ rest)) = scanExponent rest := by
  have noDigit : startsWith Decimal.isDigit rest = false :=
    startsWith_mono (fun c digit => by simp [goesOnFigures, digit]) ends
  rw [scanNumber_eq, signed.skipSign (figures.unsigned rest)]
  cases figures with
  | whole known filled =>
      have noPoint : afterMark ['.'] rest = none := by
        apply Option.eq_none_iff_forall_ne_some.mpr
        intro tail pointed
        rw [afterMark_eq_some_iff.mp pointed] at ends
        cases ends
      rw [if_pos (startsWith_of_all filled known rest), dropWhile_run known noDigit, noPoint]
  | pointed known known' filled =>
      have pointed : afterMark ['.'] ('.' :: (decimals ++ rest)) = some (decimals ++ rest) :=
        afterMark_eq_some_iff.mpr rfl
      rw [List.append_assoc, List.cons_append]
      by_cases nothing : digits = []
      · have filled : decimals ≠ [] := filled.resolve_left (not_not_intro nothing)
        have none : startsWith Decimal.isDigit ('.' :: (decimals ++ rest)) = false := rfl
        rw [nothing, List.nil_append, none, if_neg Bool.false_ne_true, pointed]
        simp only
        rw [if_pos (startsWith_of_all filled known' rest), dropWhile_run known' noDigit]
      · rw [if_pos (startsWith_of_all nothing known _), dropWhile_run known rfl, pointed]
        simp only
        rw [dropWhile_run known' noDigit]

/-- The scan of what comes after the sign, where it is that of a number. -/
theorem exists_mantissa {text : List Char} (scanned : scanNumber text ≠ .noNumber) :
    ∃ digits decimals mantissa rest, Mantissa digits decimals mantissa ∧
      skipSign text = mantissa ++ rest ∧ scanNumber text = scanExponent rest := by
  rw [scanNumber_eq] at scanned ⊢
  by_cases starts : startsWith Decimal.isDigit (skipSign text) = true
  · rcases exists_filled_run starts with ⟨digits, filled, known, run⟩
    rw [if_pos starts]
    cases point : afterMark ['.'] ((skipSign text).dropWhile Decimal.isDigit) with
    | none => exact ⟨digits, [], digits, _, .whole known filled, run, rfl⟩
    | some tail =>
        rcases exists_run Decimal.isDigit tail with ⟨decimals, known', run'⟩
        refine ⟨digits, decimals, _, _, .pointed known known' (.inl filled), ?_, rfl⟩
        calc skipSign text
          _ = digits ++ (['.'] ++ tail) := by rw [← afterMark_eq_some_iff.mp point, ← run]
          _ = digits ++ ('.' :: decimals ++ tail.dropWhile Decimal.isDigit) :=
              congrArg (digits ++ '.' :: ·) run'
          _ = (digits ++ '.' :: decimals) ++ tail.dropWhile Decimal.isDigit :=
              (List.append_assoc _ _ _).symm
  · rw [if_neg starts] at scanned ⊢
    cases point : afterMark ['.'] (skipSign text) with
    | none =>
        rw [point] at scanned
        exact absurd rfl scanned
    | some tail =>
        rw [point] at scanned
        simp only at scanned ⊢
        by_cases follows : startsWith Decimal.isDigit tail = true
        · rcases exists_filled_run follows with ⟨decimals, filled, known, run⟩
          have none : Digits [] := by simp [Digits]
          rw [if_pos follows]
          refine ⟨[], decimals, _, _, .pointed none known (.inr filled), ?_, rfl⟩
          calc skipSign text
            _ = ['.'] ++ tail := afterMark_eq_some_iff.mp point
            _ = ('.' :: decimals) ++ tail.dropWhile Decimal.isDigit := congrArg ('.' :: ·) run
        · rw [if_neg follows] at scanned
          exact absurd rfl scanned

/-- Whatever is scanned as a number starts with a sign that may be absent and a mantissa. -/
theorem exists_figures {text : List Char} (scanned : scanNumber text ≠ .noNumber) :
    ∃ negative sign digits decimals mantissa rest, SignText negative sign ∧
      Mantissa digits decimals mantissa ∧ text = sign ++ (mantissa ++ rest) ∧
      scanNumber text = scanExponent rest := by
  rcases exists_signText text with ⟨negative, sign, signed, split⟩
  rcases exists_mantissa scanned with ⟨digits, decimals, mantissa, rest, figures, found, same⟩
  rw [found] at split
  exact ⟨negative, sign, digits, decimals, mantissa, rest, signed, figures, split, same⟩

/-! Exponents -/

theorem not_goesOnFigures {mark : Char} (marks : ExponentMark mark) :
    goesOnFigures mark = false := by
  rcases marks with rfl | rfl <;> rfl

theorem Exponent.ends {power : Int} {text : List Char} (scaled : Exponent power text) :
    startsWith goesOnFigures text = false := by
  cases scaled with
  | absent => rfl
  | marked marks signed known filled => exact not_goesOnFigures marks

theorem scanExponent_marked {mark : Char} (marks : ExponentMark mark) (rest : List Char) :
    scanExponent (mark :: rest) =
      if startsWith Decimal.isDigit (skipSign rest) then
        .ended ((skipSign rest).dropWhile Decimal.isDigit)
      else .missingDigit (skipSign rest) := if_pos marks

theorem scanExponent_unmarked {mark : Char} (other : ¬ ExponentMark mark) (rest : List Char) :
    scanExponent (mark :: rest) = .ended (mark :: rest) := if_neg other

theorem Exponent.scan {power : Int} {text : List Char} (scaled : Exponent power text) :
    scanExponent text = .ended [] := by
  cases scaled with
  | absent => rfl
  | marked marks signed known filled =>
      rename_i mark negative sign digits
      have starts : startsWith Decimal.isDigit digits = true := by
        simpa using startsWith_of_all filled known []
      have whole : digits.dropWhile Decimal.isDigit = [] := by
        simpa using @dropWhile_run _ digits [] known rfl
      rw [scanExponent_marked marks, signed.skipSign (unsigned_of_digits starts), if_pos starts,
        whole]

theorem exists_power {text : List Char} (scanned : scanExponent text = .ended []) :
    ∃ power, Exponent power text := by
  cases text with
  | nil => exact ⟨0, .absent⟩
  | cons mark rest =>
      by_cases marks : ExponentMark mark
      · rw [scanExponent_marked marks] at scanned
        by_cases starts : startsWith Decimal.isDigit (skipSign rest) = true
        · rw [if_pos starts] at scanned
          rcases exists_signText rest with ⟨negative, sign, signed, split⟩
          rcases exists_filled_run starts with ⟨digits, filled, known, run⟩
          rw [Scan.ended.inj scanned, List.append_nil] at run
          rw [split, run]
          exact ⟨_, .marked marks signed known filled⟩
        · rw [if_neg starts] at scanned
          cases scanned
      · rw [scanExponent_unmarked marks] at scanned
        cases scanned

theorem scanExponent_missing_iff {text : List Char} :
    (∃ rest, scanExponent text = .missingDigit rest) ↔
      ∃ mark rest, text = mark :: rest ∧ ExponentMark mark ∧ Digitless rest := by
  constructor
  · rintro ⟨left, scanned⟩
    cases text with
    | nil => cases scanned
    | cons mark rest =>
        by_cases marks : ExponentMark mark
        · refine ⟨mark, rest, rfl, marks, digitless_iff.mpr ?_⟩
          rw [scanExponent_marked marks] at scanned
          apply Bool.eq_false_iff.mpr
          intro starts
          rw [if_pos starts] at scanned
          cases scanned
        · rw [scanExponent_unmarked marks] at scanned
          cases scanned
  · rintro ⟨mark, rest, rfl, marks, missing⟩
    rw [scanExponent_marked marks, digitless_iff.mp missing]
    exact ⟨_, rfl⟩

/-! Numbers -/

/-- The scan takes a text whole just when it writes a decimal number. -/
theorem scanNumber_eq_ended_iff {text : List Char} :
    scanNumber text = .ended [] ↔ ∃ decimal, DecimalText decimal text := by
  constructor
  · intro scanned
    have number : scanNumber text ≠ .noNumber := by simp [scanned]
    obtain ⟨negative, sign, digits, decimals, mantissa, rest, signed, figures, rfl, same⟩ :=
      exists_figures number
    rcases exists_power (same.symm.trans scanned) with ⟨power, scaled⟩
    exact ⟨_, .intro signed figures scaled⟩
  · rintro ⟨decimal, ⟨signed, figures, scaled⟩⟩
    rw [scanNumber_figures signed figures scaled.ends, scaled.scan]

theorem scanNumber_missing_iff {text : List Char} :
    (∃ rest, scanNumber text = .missingDigit rest) ↔ Stranded text := by
  constructor
  · rintro ⟨left, scanned⟩
    have number : scanNumber text ≠ .noNumber := by simp [scanned]
    obtain ⟨negative, sign, digits, decimals, mantissa, rest, signed, figures, rfl, same⟩ :=
      exists_figures number
    obtain ⟨mark, tail, rfl, marks, missing⟩ :=
      scanExponent_missing_iff.mp ⟨left, same.symm.trans scanned⟩
    exact .intro signed figures marks missing
  · rintro ⟨signed, figures, marks, missing⟩
    rename_i rest mark
    have ends : startsWith goesOnFigures (mark :: rest) = false := not_goesOnFigures marks
    rw [scanNumber_figures signed figures ends]
    exact scanExponent_missing_iff.mpr ⟨mark, rest, rfl, marks, missing⟩

deriving instance DecidableEq for Scan

instance (text : List Char) : Decidable (∃ decimal, DecimalText decimal text) :=
  decidable_of_iff _ scanNumber_eq_ended_iff

instance (text : List Char) : Decidable (Stranded text) :=
  match scanned : scanNumber text with
  | .missingDigit rest => .isTrue (scanNumber_missing_iff.mp ⟨rest, scanned⟩)
  | .ended rest => .isFalse fun stranded => by
      rcases scanNumber_missing_iff.mpr stranded with ⟨left, other⟩
      cases scanned.symm.trans other
  | .noNumber => .isFalse fun stranded => by
      rcases scanNumber_missing_iff.mpr stranded with ⟨left, other⟩
      cases scanned.symm.trans other

/-- A point may stand at either end; the sign of an exponent needs a digit after it. -/
example : (∃ decimal, DecimalText decimal "-1.e+05".toList) ∧ Stranded ".5e+x".toList := by
  decide

/-! Values -/

theorem SignText.read? {negative : Bool} {sign rest : List Char}
    (signed : SignText negative sign) (unsigned : startsWith isSign rest = false) :
    Numeral.read? (sign ++ rest) = Numeral.readUnsigned negative rest := by
  cases signed with
  | absent =>
      unfold Numeral.read?
      rw [List.nil_append]
      split
      · cases unsigned
      · cases unsigned
      · rfl
  | plus => rfl
  | minus => rfl

theorem Exponent.read {power : Int} {text : List Char} (scaled : Exponent power text) :
    Numeral.readExponent text = some power := by
  cases scaled with
  | absent => rfl
  | marked marks signed known filled =>
      rename_i mark negative sign digits
      have all : digits.all Decimal.isDigit = true := List.all_eq_true.mpr known
      have unsigned : startsWith isSign digits = false := by
        simpa using unsigned_of_digits (startsWith_of_all filled known [])
      unfold Numeral.readExponent
      simp only
      rw [if_pos (show mark = 'e' ∨ mark = 'E' from marks)]
      cases signed with
      | plus => simp [filled, all]
      | minus => simp [filled, all]
      | absent =>
          rw [List.nil_append]
          split
          · cases unsigned
          · cases unsigned
          · simp [filled, all]

theorem Mantissa.read {digits decimals mantissa exponent : List Char} {power : Int}
    (figures : Mantissa digits decimals mantissa) (scaled : Exponent power exponent)
    (negative : Bool) :
    Numeral.readDecimal negative (mantissa ++ exponent) =
      some (.ofDigits negative digits decimals power) := by
  have noDigit : startsWith Decimal.isDigit exponent = false :=
    startsWith_mono (fun c digit => by simp [goesOnFigures, digit]) scaled.ends
  rw [Numeral.readDecimal]
  cases figures with
  | whole known filled =>
      have noPoint (tail : List Char) : exponent ≠ '.' :: tail := by
        rintro rfl
        cases scaled.ends
      rw [takeWhile_run known noDigit, dropWhile_run known noDigit]
      split
      rename_i fraction rest same
      split at same
      · exact absurd rfl (noPoint _)
      · cases same
        simp [filled, scaled.read]
  | pointed known known' filled =>
      have some' : ¬ (digits = [] ∧ decimals = []) := fun none =>
        filled.elim (absurd none.1) (absurd none.2)
      rw [List.append_assoc, List.cons_append, takeWhile_run known rfl, dropWhile_run known rfl]
      simp only
      rw [takeWhile_run known' noDigit, dropWhile_run known' noDigit, scaled.read, if_neg some']
      rfl

/-- A text that writes a decimal number is read as it. -/
theorem DecimalText.read? {decimal : Decimal} {text : List Char}
    (written : DecimalText decimal text) : Numeral.read? text = some (.finite decimal) := by
  cases written with
  | intro signed figures scaled =>
      rw [signed.read? (figures.unsigned _), Numeral.readUnsigned, figures.read scaled]

end SeriesQuery.Filter
