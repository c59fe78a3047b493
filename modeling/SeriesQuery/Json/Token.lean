import SeriesQuery.Decimal.Basic
/-! What JSON text consists of. -/
namespace SeriesQuery.Json

inductive Token where
  | openArray
  | closeArray
  | openObject
  | closeObject
  | comma
  | colon
  | null
  | bool (value : Bool)
  /-- The digits after the point are counted where there is a point or an exponent. -/
  | number (value : Decimal) (decimals : Option Nat)
  /-- A string in which half a surrogate pair stands alone has no content. -/
  | string (content : Option String)
  | broken
  deriving DecidableEq, Repr

end SeriesQuery.Json
