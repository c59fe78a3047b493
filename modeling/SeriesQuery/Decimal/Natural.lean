import SeriesQuery.Decimal.Basic
/-! Whole numbers as text: digits, with a plus sign in front or without one. -/
namespace SeriesQuery.Decimal

/-- The number a text denotes, if it is not above the greatest one. -/
def natural? (greatest : Nat) (text : List Char) : Option Nat :=
  let digits := match text with
    | '+' :: rest => rest
    | _ => text
  if digits ≠ [] ∧ digits.all isDigit ∧ digitsValue digits ≤ greatest then some (digitsValue digits)
  else none

end SeriesQuery.Decimal
