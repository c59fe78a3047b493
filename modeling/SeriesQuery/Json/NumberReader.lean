import SeriesQuery.Json.Token
/-! Numbers in JSON text: whole digits, then a fraction and an exponent, each of which may be
absent. -/
namespace SeriesQuery.Json

/-- The digits at the front of a text, if there are any, and the text behind them. -/
def readDigits (text : List Char) : Option (List Char × List Char) :=
  match text.takeWhile Decimal.isDigit with
  | [] => none
  | digits => some (digits, text.dropWhile Decimal.isDigit)

theorem length_readDigits {text digits rest : List Char}
    (read : readDigits text = some (digits, rest)) : rest.length < text.length := by
  have split := congrArg List.length
    (List.takeWhile_append_dropWhile (p := Decimal.isDigit) (l := text))
  rw [List.length_append] at split
  unfold readDigits at read
  split at read
  · simp at read
  · rename_i digits' present
    cases read
    have := List.length_pos_iff.mpr present
    omega

/-- The fraction after a number's whole digits; without a point it is empty. -/
def readFraction : List Char → Option (List Char × List Char)
  | '.' :: rest => readDigits rest
  | rest => some ([], rest)

theorem length_readFraction {text fraction rest : List Char}
    (read : readFraction text = some (fraction, rest)) : rest.length ≤ text.length := by
  unfold readFraction at read
  split at read
  · exact Nat.le_succ_of_le (Nat.le_of_lt (length_readDigits read))
  · simp_all

def readSign : List Char → Int × List Char
  | '-' :: rest => (-1, rest)
  | '+' :: rest => (1, rest)
  | rest => (1, rest)

theorem length_readSign (text : List Char) : (readSign text).2.length ≤ text.length := by
  unfold readSign
  split <;> simp

/-- The exponent after a number's digits; without its mark there is none. -/
def readExponent : List Char → Option (Option Int × List Char)
  | [] => some (none, [])
  | c :: rest =>
    if c = 'e' ∨ c = 'E' then
      (readDigits (readSign rest).2).map fun (digits, tail) =>
        (some ((readSign rest).1 * Decimal.digitsValue digits), tail)
    else some (none, c :: rest)

theorem length_readExponent {text rest : List Char} {exponent : Option Int}
    (read : readExponent text = some (exponent, rest)) : rest.length ≤ text.length := by
  unfold readExponent at read
  split at read
  · simp_all
  · split at read
    · obtain ⟨⟨digits, tail⟩, found, same⟩ := Option.map_eq_some_iff.mp read
      cases same
      exact Nat.le_succ_of_le
        (Nat.le_trans (Nat.le_of_lt (length_readDigits found)) (length_readSign _))
    · simp_all

/-- A number without its sign. Of the numbers that start with the digit zero only zero is written
so. -/
def readNumber (negative : Bool) (text : List Char) : Option (Token × List Char) := do
  let (whole, afterWhole) ← readDigits text
  guard (whole.head? ≠ some '0' ∨ whole.length = 1)
  let (fraction, afterFraction) ← readFraction afterWhole
  let (exponent, rest) ← readExponent afterFraction
  return (.number (Decimal.ofDigits negative whole fraction (exponent.getD 0))
    (if fraction = [] ∧ exponent = none then none else some fraction.length), rest)

theorem length_readNumber {negative : Bool} {text rest : List Char} {token : Token}
    (read : readNumber negative text = some (token, rest)) : rest.length < text.length := by
  unfold readNumber at read
  obtain ⟨_, digits, read⟩ := Option.bind_eq_some_iff.mp read
  obtain ⟨_, -, read⟩ := Option.bind_eq_some_iff.mp read
  obtain ⟨_, fraction, read⟩ := Option.bind_eq_some_iff.mp read
  obtain ⟨_, exponent, same⟩ := Option.bind_eq_some_iff.mp read
  cases same
  exact Nat.lt_of_le_of_lt (length_readExponent exponent)
    (Nat.lt_of_le_of_lt (length_readFraction fraction) (length_readDigits digits))

end SeriesQuery.Json
