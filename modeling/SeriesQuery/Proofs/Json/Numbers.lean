import SeriesQuery.Json.Number
import SeriesQuery.Json.Tokens
import SeriesQuery.Proofs.Decimal.Shortest
import SeriesQuery.Proofs.Double.Decimals
import SeriesQuery.Proofs.Filter.Words
/-!
Numbers in JSON text. Main statements: a text of the grammar of numbers is read as one token,
whatever follows that does not carry the number on; integers and finite doubles are written in that
grammar.
-/
namespace SeriesQuery.Json

open SeriesQuery.Filter (startsWith startsWith_mono takeWhile_run dropWhile_run)

/-! Tokens -/

theorem tokens_cons {c : Char} {rest tail : List Char} {token : Token} (solid : isBlank c = false)
    (read : readToken c rest = some (token, tail)) : tokens (c :: rest) = token :: tokens tail := by
  rw [tokens, if_neg (by rw [solid]; exact Bool.false_ne_true)]
  split
  · rename_i found
    cases read.symm.trans found
    rfl
  · rename_i found
    cases read.symm.trans found

/-- Characters that carry a number on. -/
def continuesNumber (c : Char) : Bool := Decimal.isDigit c || c = '.' || c = 'e' || c = 'E'

/-- The text is read as these tokens, whatever follows that carries no number on. -/
def Spells (text : List Char) (found : List Token) : Prop :=
  ∀ rest, startsWith continuesNumber rest = false → tokens (text ++ rest) = found ++ tokens rest

/-! The grammar of numbers -/

/-- Nothing, or a point and digits. -/
inductive Fraction : List Char → List Char → Prop where
  | absent : Fraction [] []
  | pointed {digits : List Char} (known : ∀ c ∈ digits, Decimal.isDigit c = true)
      (filled : digits ≠ []) : Fraction digits ('.' :: digits)

/-- Nothing, or the mark of an exponent, its sign and digits. -/
inductive Power : Option Int → List Char → Prop where
  | absent : Power none []
  | marked {sign : Char} {digits : List Char} (signed : sign = '-' ∨ sign = '+')
      (known : ∀ c ∈ digits, Decimal.isDigit c = true) (filled : digits ≠ []) :
      Power (some ((if sign = '-' then -1 else 1) * Decimal.digitsValue digits))
        ('e' :: sign :: digits)

/-- A number without its sign. -/
inductive Numeral (negative : Bool) : Token → List Char → Prop where
  | intro {whole decimals fraction power : List Char} {exponent : Option Int}
      (known : ∀ c ∈ whole, Decimal.isDigit c = true) (filled : whole ≠ [])
      (first : whole.head? ≠ some '0' ∨ whole.length = 1) (fractional : Fraction decimals fraction)
      (scaled : Power exponent power) :
      Numeral negative
        (.number (.ofDigits negative whole decimals (exponent.getD 0))
          (if decimals = [] ∧ exponent = none then none else some decimals.length))
        (whole ++ (fraction ++ power))

theorem readDigits_append {digits rest : List Char}
    (known : ∀ c ∈ digits, Decimal.isDigit c = true) (filled : digits ≠ [])
    (ends : startsWith Decimal.isDigit rest = false) :
    readDigits (digits ++ rest) = some (digits, rest) := by
  rw [readDigits, takeWhile_run known ends, dropWhile_run known ends]
  cases digits with
  | nil => exact absurd rfl filled
  | cons c tail => rfl

theorem Fraction.readFraction {decimals text rest : List Char} (fraction : Fraction decimals text)
    (ends : startsWith (fun c => Decimal.isDigit c || c = '.') rest = false) :
    readFraction (text ++ rest) = some (decimals, rest) := by
  cases fraction with
  | absent =>
      rw [List.nil_append]
      unfold Json.readFraction
      split
      · cases ends
      · rfl
  | pointed known filled =>
      exact readDigits_append known filled
        (startsWith_mono (fun c digit => by simp [digit]) ends)

theorem Power.readExponent {exponent : Option Int} {text rest : List Char}
    (power : Power exponent text) (ends : startsWith continuesNumber rest = false) :
    readExponent (text ++ rest) = some (exponent, rest) := by
  cases power with
  | absent =>
      cases rest with
      | nil => rfl
      | cons c tail =>
          have ends : continuesNumber c = false := ends
          refine if_neg ?_
          rintro (rfl | rfl) <;> cases ends
  | @marked sign digits signed known filled =>
      have read : readDigits (digits ++ rest) = some (digits, rest) :=
        readDigits_append known filled
          (startsWith_mono (fun c digit => by simp [continuesNumber, digit]) ends)
      rcases signed with rfl | rfl <;>
        simp [Json.readExponent, readSign, read]

/-- What carries the fraction on is not what a power starts with. -/
theorem Power.not_startsWith {exponent : Option Int} {text rest : List Char}
    (power : Power exponent text) (ends : startsWith continuesNumber rest = false) :
    startsWith (fun c => Decimal.isDigit c || c = '.') (text ++ rest) = false := by
  cases power with
  | absent =>
      refine startsWith_mono (fun c goes => ?_) ends
      rw [continuesNumber, goes]
      rfl
  | marked => rfl

theorem Fraction.not_startsWith {decimals text rest : List Char} (fraction : Fraction decimals text)
    (ends : startsWith (fun c => Decimal.isDigit c || c = '.') rest = false) :
    startsWith Decimal.isDigit (text ++ rest) = false := by
  cases fraction with
  | absent => exact startsWith_mono (fun c digit => by simp [digit]) ends
  | pointed => rfl

theorem Numeral.readNumber {negative : Bool} {token : Token} {text rest : List Char}
    (numeral : Numeral negative token text) (ends : startsWith continuesNumber rest = false) :
    readNumber negative (text ++ rest) = some (token, rest) := by
  cases numeral with
  | intro known filled first fractional scaled =>
      have behind := scaled.not_startsWith ends
      rw [List.append_assoc, List.append_assoc, Json.readNumber,
        readDigits_append known filled (fractional.not_startsWith behind)]
      simp [first, fractional.readFraction behind, scaled.readExponent ends]

/-! Numbers as tokens -/

theorem readToken_digit {c : Char} (digit : Decimal.isDigit c = true) (rest : List Char) :
    readToken c rest = readNumber false (c :: rest) := by
  unfold readToken
  split
  case h_12 => rfl
  all_goals exact absurd digit (by decide)

theorem isBlank_digit {c : Char} (digit : Decimal.isDigit c = true) : isBlank c = false := by
  refine Bool.eq_false_iff.mpr fun blank => ?_
  simp only [isBlank, Bool.or_eq_true, decide_eq_true_eq] at blank
  rcases blank with ((rfl | rfl) | rfl) | rfl <;> cases digit

theorem Numeral.spells {token : Token} {text : List Char} (numeral : Numeral false token text) :
    Spells text [token] := by
  intro rest ends
  have read := numeral.readNumber ends
  cases numeral with
  | @intro whole decimals fraction power exponent known filled first fractional scaled =>
      cases whole with
      | nil => exact absurd rfl filled
      | cons c tail =>
          have digit := known c List.mem_cons_self
          exact tokens_cons (isBlank_digit digit) ((readToken_digit digit _).trans read)

theorem Numeral.spells_minus {token : Token} {text : List Char}
    (numeral : Numeral true token text) :
    Spells ('-' :: text) [token] :=
  fun _ ends => tokens_cons rfl (numeral.readNumber ends)

/-! What the printer writes -/

theorem numeral_toDigits (negative : Bool) (number : Nat) :
    Numeral negative (.number ⟨negative, number, 0⟩ none) (Nat.toDigits 10 number) := by
  have first : (Nat.toDigits 10 number).head? ≠ some '0' ∨ (Nat.toDigits 10 number).length = 1 := by
    rcases Nat.eq_zero_or_pos number with rfl | positive
    · exact .inr rfl
    · exact .inl (Decimal.head_toDigits positive)
  have numeral : Numeral negative _ (Nat.toDigits 10 number ++ ([] ++ [])) :=
    .intro (fun _ => Decimal.isDigit_of_mem_toDigits) Nat.toDigits_ne_nil first .absent .absent
  simpa [Decimal.ofDigits, Decimal.digitsValue_toDigits] using numeral

theorem spells_integerText (value : Int) :
    Spells (integerText value) [.number ⟨decide (value < 0), value.natAbs, 0⟩ none] := by
  unfold integerText
  split
  · rename_i negative
    rw [decide_eq_true negative]
    exact (numeral_toDigits true value.natAbs).spells_minus
  · rename_i positive
    rw [decide_eq_false positive]
    exact (numeral_toDigits false value.natAbs).spells

theorem isDigit_of_mem_replicate {count : Nat} {c : Char} (member : c ∈ List.replicate count '0') :
    Decimal.isDigit c = true := by
  rw [List.eq_of_mem_replicate member]
  decide

/-- The digits around the point are those of the number and zeros behind them. -/
theorem numeral_pointed (negative : Bool) {digits : List Char} (figures : Decimal.Figures digits)
    {zeros count : Nat} (positive : 0 < count) :
    let padded := digits ++ List.replicate zeros '0'
    let fraction := padded.drop count
    ∃ decimal places, Numeral negative (.number decimal places)
      (padded.take count ++ '.' :: (if fraction = [] then ['0'] else fraction)) := by
  intro padded fraction
  obtain ⟨c, tail, rfl⟩ := List.exists_cons_of_ne_nil figures.ne_nil
  obtain ⟨more, rfl⟩ := Nat.exists_eq_succ_of_ne_zero (Nat.ne_of_gt positive)
  have known : ∀ d ∈ padded, Decimal.isDigit d = true := by
    intro d member
    rcases List.mem_append.mp member with figure | zero
    · exact figures.known d figure
    · exact isDigit_of_mem_replicate zero
  have decimals : ∀ d ∈ if fraction = [] then ['0'] else fraction, Decimal.isDigit d = true := by
    intro d member
    split at member
    · rw [List.mem_singleton.mp member]
      rfl
    · exact known d (List.mem_of_mem_drop member)
  have filled : (if fraction = [] then ['0'] else fraction) ≠ [] := by
    split
    · exact List.cons_ne_nil _ _
    · assumption
  have numeral : Numeral negative _ (padded.take (more + 1) ++ (_ ++ [])) :=
    .intro (fun d member => known d (List.mem_of_mem_take member)) (List.cons_ne_nil _ _)
      (.inl figures.head) (.pointed decimals filled) .absent
  rw [List.append_nil] at numeral
  exact ⟨_, _, numeral⟩

theorem numeral_positional (negative : Bool) {digits : List Char}
    (figures : Decimal.Figures digits) (exponent : Int) :
    ∃ decimal places, Numeral negative (.number decimal places) (positional digits exponent) := by
  unfold positional
  split
  · have zero : ∀ c ∈ ['0'], Decimal.isDigit c = true := List.forall_mem_singleton.mpr rfl
    have known : ∀ c ∈ List.replicate (-exponent - 1).toNat '0' ++ digits,
        Decimal.isDigit c = true := by
      intro c member
      rcases List.mem_append.mp member with zero | figure
      · exact isDigit_of_mem_replicate zero
      · exact figures.known c figure
    have numeral : Numeral negative _ (['0'] ++ (_ ++ [])) :=
      .intro zero (List.cons_ne_nil _ _) (.inr rfl)
        (.pointed known (List.append_ne_nil_of_right_ne_nil _ figures.ne_nil)) .absent
    rw [List.append_nil] at numeral
    exact ⟨_, _, numeral⟩
  · exact numeral_pointed negative figures (Nat.succ_pos _)

theorem numeral_scientific (negative : Bool) {digits : List Char}
    (figures : Decimal.Figures digits) (exponent : Int) :
    ∃ decimal places, Numeral negative (.number decimal places) (scientific digits exponent) := by
  have power : ∃ power, Power power
      ('e' :: (if exponent < 0 then '-' else '+') :: Nat.toDigits 10 exponent.natAbs) :=
    ⟨_, .marked (by split <;> simp) (fun _ => Decimal.isDigit_of_mem_toDigits)
      Nat.toDigits_ne_nil⟩
  obtain ⟨power, scaled⟩ := power
  have known := figures.known
  unfold scientific
  split
  · rename_i first second rest
    have one : ∀ c ∈ [first], Decimal.isDigit c = true :=
      List.forall_mem_singleton.mpr (known first List.mem_cons_self)
    exact ⟨_, _, .intro one (List.cons_ne_nil _ _) (.inr rfl)
      (.pointed (fun c member => known c (List.mem_cons_of_mem _ member)) (List.cons_ne_nil _ _))
      scaled⟩
  · exact ⟨_, _, .intro known figures.ne_nil (.inl figures.head) .absent scaled⟩

theorem numeral_magnitudeText (negative : Bool) {value : Float} (finite : value.isFinite = true) :
    ∃ decimal places, Numeral negative (.number decimal places) (magnitudeText value) := by
  unfold magnitudeText
  split
  · have zero : ∀ c ∈ ['0'], Decimal.isDigit c = true := List.forall_mem_singleton.mpr rfl
    exact ⟨_, _, .intro zero (List.cons_ne_nil _ _) (.inr rfl)
      (.pointed zero (List.cons_ne_nil _ _)) .absent⟩
  · rename_i nonzero
    have figures := Decimal.figures_shortestDigits finite (Bool.eq_false_iff.mpr nonzero)
    dsimp only
    split
    · exact numeral_positional negative figures _
    · exact numeral_scientific negative figures _

/-- What stands for a double: a number, or null where the double is not finite. -/
def realToken (value : Float) : Token := ((tokens (realText value)).head?).getD .broken

theorem realText_token (value : Float) :
    ∃ token, (token = .null ∨ ∃ decimal places, token = .number decimal places) ∧
      Spells (realText value) [token] := by
  unfold realText
  split
  · rename_i finite
    split
    · obtain ⟨decimal, places, numeral⟩ := numeral_magnitudeText false finite
      exact ⟨_, .inr ⟨decimal, places, rfl⟩, numeral.spells⟩
    · obtain ⟨decimal, places, numeral⟩ := numeral_magnitudeText true (Double.isFinite_neg finite)
      exact ⟨_, .inr ⟨decimal, places, rfl⟩, numeral.spells_minus⟩
  · exact ⟨.null, .inl rfl, fun rest _ => tokens_cons rfl rfl⟩

theorem realToken_eq {value : Float} {token : Token} (spells : Spells (realText value) [token]) :
    realToken value = token := by
  have alone := spells [] rfl
  rw [List.append_nil] at alone
  rw [realToken, alone]
  rfl

theorem realToken_cases (value : Float) :
    realToken value = .null ∨ ∃ decimal places, realToken value = .number decimal places := by
  obtain ⟨token, kind, spells⟩ := realText_token value
  rwa [realToken_eq spells]

theorem spells_realText (value : Float) : Spells (realText value) [realToken value] := by
  obtain ⟨token, -, spells⟩ := realText_token value
  rwa [realToken_eq spells]

end SeriesQuery.Json
