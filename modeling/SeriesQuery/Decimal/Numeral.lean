import SeriesQuery.Decimal.Basic
/-!
Numbers written as text: an optional sign, then digits with an optional point (at least one digit in
all) and an optional exponent, or one of the words for infinity and for the value that is not a
number.
-/
namespace SeriesQuery

inductive Numeral where
  | finite (value : Decimal)
  | infinite (negative : Bool)
  | notANumber
  deriving DecidableEq, Repr

namespace Numeral

open Decimal

/-- The exponent written after its mark, or zero where the text ends. -/
def readExponent : List Char → Option Int
  | [] => some 0
  | mark :: rest =>
    if mark = 'e' ∨ mark = 'E' then
      let (sign, digits) : Int × List Char := match rest with
        | '-' :: digits => (-1, digits)
        | '+' :: digits => (1, digits)
        | digits => (1, digits)
      if digits ≠ [] ∧ digits.all isDigit then some (sign * digitsValue digits) else none
    else none

def readDecimal (negative : Bool) (text : List Char) : Option Decimal :=
  let whole := text.takeWhile isDigit
  let (fraction, rest) : List Char × List Char := match text.dropWhile isDigit with
    | '.' :: tail => (tail.takeWhile isDigit, tail.dropWhile isDigit)
    | tail => ([], tail)
  if whole = [] ∧ fraction = [] then none
  else (readExponent rest).map (ofDigits negative whole fraction)

def readWord (negative : Bool) (text : List Char) : Option Numeral :=
  let word := String.ofList (text.map Char.toLower)
  if word = "inf" ∨ word = "infinity" then some (.infinite negative)
  else if word = "nan" then some .notANumber
  else none

def readUnsigned (negative : Bool) (text : List Char) : Option Numeral :=
  match readDecimal negative text with
  | some value => some (.finite value)
  | none => readWord negative text

def read? (text : List Char) : Option Numeral :=
  match text with
  | '-' :: rest => readUnsigned true rest
  | '+' :: rest => readUnsigned false rest
  | rest => readUnsigned false rest

def toFloat : Numeral → Float
  | finite value => value.toFloat
  | infinite negative => if negative then -infinity else infinity
  | notANumber => 0.0 / 0.0

end Numeral

end SeriesQuery
