import SeriesQuery.Scalar
/-!
What JSON numbers denote. Digits are kept as far as they have room in 64 bits, and what they make is
then multiplied or divided by a power of ten, so that long numbers need not denote the nearest
double.
-/
namespace SeriesQuery.Json

/-- Puts the last digits of a number behind others, up to the first one that leaves no room in 64
bits, and counts those that are left. -/
def putDigits (number : Nat) : Nat → Nat → Nat × Nat
  | 0, kept => (kept, 0)
  | left + 1, kept =>
    let longer := 10 * kept + number / Nat.pow 10 left % 10
    if longer < UInt64.size then putDigits number left longer else (kept, left + 1)

variable {V : Type} [Scalar V]

/-- Powers of ten beyond this one are out of range. -/
def greatestPower : Nat := 308

def powerOfTen (power : Nat) : V := Scalar.ofNumeral (.finite ⟨false, 1, power⟩)

/-- Divides by the greatest power so many times, or until nothing is left. -/
def shrink : Nat → V → V
  | 0, value => value
  | times + 1, value =>
    if value == Scalar.ofNat 0 then value else shrink times (value / powerOfTen greatestPower)

/-- A number times a power of ten, unless that is out of range. -/
def timesPower? (number : Nat) (power : Int) : Option V :=
  let value : V := Scalar.ofNat number
  if power < 0 then
    let times := (power.natAbs - 1) / greatestPower
    some (shrink times value / powerOfTen (power.natAbs - greatestPower * times))
  else if power ≤ greatestPower then
    let scaled := value * powerOfTen power.natAbs
    if Scalar.isFinite scaled then some scaled else none
  else if value == Scalar.ofNat 0 then some value
  else none

/-- The value of a number with some of its digits after the point, unless it is out of range. -/
def scaled? (number : Decimal) (decimals : Option Nat) : Option V :=
  let after := decimals.getD 0
  let whole := number.coefficient / Nat.pow 10 after
  let (front, dropped) := putDigits whole (Nat.toDigits 10 whole).length 0
  let (kept, left) := putDigits number.coefficient after front
  (timesPower? kept (number.exponent + dropped + left)).map fun value =>
    if number.negative then -value else value

end SeriesQuery.Json
