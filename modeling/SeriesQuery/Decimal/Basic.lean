/-!
Decimal numerals as sign, coefficient and power of ten, and the double nearest to one.
-/
namespace SeriesQuery

/-- The number `± coefficient * 10 ^ exponent`; zero keeps its sign. -/
structure Decimal where
  negative : Bool
  coefficient : Nat
  exponent : Int
  deriving DecidableEq, Repr

namespace Decimal

def isDigit (c : Char) : Bool := '0' ≤ c && c ≤ '9'

def digitValue (c : Char) : Nat := c.toNat - '0'.toNat

def digitsValue (digits : List Char) : Nat :=
  digits.foldl (fun total c => 10 * total + digitValue c) 0

/-- The numeral with these digits before and after the point. -/
def ofDigits (negative : Bool) (whole fraction : List Char) (exponent : Int) : Decimal :=
  ⟨negative, digitsValue (whole ++ fraction), exponent - fraction.length⟩

def infinity : Float := 1.0 / 0.0

/-- The bit of the sign in the word of a double. -/
def signBit : Nat := 0x8000000000000000

/--
The nearest double, a tie going to the even neighbour. Exponents far beyond the range of a double
are settled without forming the power of ten.
-/
def magnitude (coefficient : Nat) (exponent : Int) : Float :=
  if coefficient = 0 then 0.0
  else if 400 < exponent then infinity
  else if exponent + coefficient.log2 + 1 < -400 then 0.0
  else Float.ofScientific coefficient (exponent < 0) exponent.natAbs

def toFloat (decimal : Decimal) : Float :=
  let unsigned := magnitude decimal.coefficient decimal.exponent
  if decimal.negative then -unsigned else unsigned

end Decimal

end SeriesQuery
