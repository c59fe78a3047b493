import SeriesQuery.Decimal.Basic
/-!
The shortest decimal that reads back as a given double. The reals that round to the double form an
interval around it; for one digit, two digits and so on, the two neighbours of the double on that
decimal grid are tried, and the first grid with a neighbour in the interval gives the digits.
-/
namespace SeriesQuery.Decimal

/-- A finite nonzero magnitude `significand * 2 ^ power` as stored in a double. -/
structure Binary where
  significand : Nat
  power : Int
  /-- Whether the gap below is half the gap above: the significand is least for its power. -/
  halfGapBelow : Bool

/-- The first bit of most significands, which is not stored with the others. -/
def leadingBit : Nat := 0x10000000000000

def binary (value : Float) : Binary :=
  let word := value.toBits.toNat % signBit
  let biased : Nat := word / leadingBit
  let fraction : Nat := word % leadingBit
  if biased = 0 then ⟨fraction, -1074, false⟩
  else ⟨leadingBit + fraction, (biased : Int) - 1075, fraction = 0 && 1 < biased⟩

/-- Exact comparison of `a * 2 ^ p` with `b * 10 ^ e`. -/
def compareScaled (a : Nat) (p : Int) (b : Nat) (e : Int) : Ordering :=
  compare (a * Nat.pow 2 p.toNat * Nat.pow 10 (-e).toNat)
    (b * Nat.pow 10 e.toNat * Nat.pow 2 (-p).toNat)

/-- Greatest `k` with `k * 10 ^ e ≤ a * 2 ^ p`. -/
def floorScaled (a : Nat) (p : Int) (e : Int) : Nat :=
  (a * Nat.pow 2 p.toNat * Nat.pow 10 (-e).toNat) / (Nat.pow 10 e.toNat * Nat.pow 2 (-p).toNat)

namespace Binary

/-- Whether `k * 10 ^ e` rounds to the magnitude; the ends belong to an even significand. -/
def rounds (b : Binary) (k : Nat) (e : Int) : Bool :=
  let upper := compareScaled (4 * b.significand + 2) (b.power - 2) k e
  let lower := compareScaled (4 * b.significand - if b.halfGapBelow then 1 else 2) (b.power - 2) k e
  if b.significand % 2 = 0 then upper != .lt && lower != .gt else upper == .gt && lower == .lt

/-- The decimal exponent of the first digit, found upward from `start`. -/
def leadingExponent (b : Binary) (start : Int) : Nat → Int
  | 0 => start
  | steps + 1 =>
    if compareScaled b.significand b.power 1 (start + 1) == .lt then start
    else b.leadingExponent (start + 1) steps

/-- The neighbour on the grid of spacing `10 ^ e` that reads back, the nearer one of two. -/
def onGrid (b : Binary) (e : Int) : Option Nat :=
  let below := floorScaled b.significand b.power e
  match b.rounds below e, b.rounds (below + 1) e with
  | true, true =>
    match compareScaled (2 * b.significand) b.power (2 * below + 1) e with
    | .lt => some below
    | .gt => some (below + 1)
    | .eq => if below % 2 = 0 then some below else some (below + 1)
  | true, false => some below
  | false, true => some (below + 1)
  | false, false => none

/-- Coefficient and exponent with the fewest digits, tried from `count` digits up. -/
def shortestFrom (b : Binary) (leading : Int) (count : Nat) : Nat → Nat × Int
  | 0 => (floorScaled b.significand b.power (leading + 1 - count), leading + 1 - count)
  | steps + 1 =>
    match b.onGrid (leading + 1 - count) with
    | some k => (k, leading + 1 - count)
    | none => b.shortestFrom leading (count + 1) steps

def shortest (b : Binary) : Nat × Int :=
  let guess : Int := ((b.significand.log2 : Int) + b.power) * 30103 / 100000 - 1
  b.shortestFrom (b.leadingExponent guess 4) 1 17

end Binary

/-- Significant digits without trailing zeros, and the decimal exponent of the first one. -/
structure Digits where
  digits : List Char
  exponent : Int

def Digits.ofScaled (coefficient : Nat) (exponent : Int) : Digits :=
  let digits := Nat.toDigits 10 coefficient
  let kept := (digits.reverse.dropWhile (· = '0')).reverse
  ⟨kept, exponent + digits.length - 1⟩

/-- The shortest digits of a finite nonzero double, its sign apart. -/
def shortestDigits (value : Float) : Digits :=
  let (coefficient, exponent) := (binary value).shortest
  Digits.ofScaled coefficient exponent

end SeriesQuery.Decimal
