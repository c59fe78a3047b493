import SeriesQuery.Decimal.Numeral
/-!
The arithmetic of sample values. The engine is written once over these operations; doubles run it,
and any other carrier with the same operations can be put in their place.
-/
namespace SeriesQuery

class Scalar (V : Type) extends Add V, Sub V, Mul V, Div V, Neg V, LT V, LE V, BEq V where
  ofNat : Nat → V
  ofNumeral : Numeral → V
  infinity : V
  isFinite : V → Bool
  isNaN : V → Bool
  /-- A total order that refines `<`: the negative zero comes before the positive one. -/
  compareTotal : V → V → Ordering
  /-- Greatest natural number at most the value, for values that are not negative. -/
  floor : V → Nat
  decidableLT : DecidableLT V
  decidableLE : DecidableLE V

namespace Scalar

variable {V : Type} [Scalar V]

instance : DecidableLT V := decidableLT

instance : DecidableLE V := decidableLE

/-- The lesser of two values; one that is not a number is passed over. -/
def least (a b : V) : V := if isNaN a then b else if b < a then b else a

/-- The greater of two values; one that is not a number is passed over. -/
def greatest (a b : V) : V := if isNaN a then b else if a < b then b else a

def clamp (low high value : V) : V :=
  if value < low then low else if high < value then high else value

/-- Sums start from the negative zero, the neutral element that keeps every sign. -/
def sum (values : List V) : V := values.foldl (· + ·) (-ofNat 0)

end Scalar

/-- Words of doubles ordered by sign and magnitude. -/
def orderKey (value : Float) : Int :=
  let word := value.toBits.toNat
  if word < Decimal.signBit then word else Decimal.signBit - 1 - word

instance : Scalar Float where
  ofNat := Float.ofNat
  ofNumeral := Numeral.toFloat
  infinity := Decimal.infinity
  isFinite := Float.isFinite
  isNaN := Float.isNaN
  compareTotal a b := compare (orderKey a) (orderKey b)
  floor value := value.toUInt64.toNat
  decidableLT := inferInstance
  decidableLE := inferInstance

/-- The number a text denotes, if the whole text is a number. -/
def readScalar? {V : Type} [Scalar V] (text : String) : Option V :=
  (Numeral.read? text.toList).map Scalar.ofNumeral

end SeriesQuery
