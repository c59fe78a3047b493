import SeriesQuery.Decimal.Shortest
/-!
Numbers as JSON writes them: integers in full, other values with the fewest digits that read back.
-/
namespace SeriesQuery.Json

/-- Digits with the point after the digit of exponent zero, and at least one digit behind the
point. -/
def positional (digits : List Char) (exponent : Int) : List Char :=
  if exponent < 0 then
    '0' :: '.' :: (List.replicate (-exponent - 1).toNat '0' ++ digits)
  else
    let wholeCount := exponent.toNat + 1
    let padded := digits ++ List.replicate (wholeCount - digits.length) '0'
    let fraction := padded.drop wholeCount
    padded.take wholeCount ++ '.' :: (if fraction = [] then ['0'] else fraction)

/-- One digit before the point, then the exponent with its sign. -/
def scientific (digits : List Char) (exponent : Int) : List Char :=
  let significand := match digits with
    | first :: second :: rest => first :: '.' :: second :: rest
    | _ => digits
  let sign := if exponent < 0 then '-' else '+'
  significand ++ 'e' :: sign :: Nat.toDigits 10 exponent.natAbs

/-- First digits from the sixteenth place before the point to the fifth behind it are positional. -/
def magnitudeText (value : Float) : List Char :=
  if value == 0 then ['0', '.', '0']
  else
    let shortest := Decimal.shortestDigits value
    if -5 ≤ shortest.exponent ∧ shortest.exponent < 16 then
      positional shortest.digits shortest.exponent
    else scientific shortest.digits shortest.exponent

/-- The shortest text that reads back as the value; what is not finite has none and is null. -/
def realText (value : Float) : List Char :=
  if value.isFinite then
    if value.toBits.toNat < Decimal.signBit then magnitudeText value
    else '-' :: magnitudeText (-value)
  else ['n', 'u', 'l', 'l']

def integerText (value : Int) : List Char :=
  if value < 0 then '-' :: Nat.toDigits 10 value.natAbs else Nat.toDigits 10 value.natAbs

end SeriesQuery.Json
