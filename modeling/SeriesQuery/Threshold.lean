import SeriesQuery.Text.Blank
/-! Bounds that the observations of a histogram are counted against. -/
namespace SeriesQuery

inductive Comparison where
  /-- Observations at most the bound. -/
  | atMost
  /-- Observations above the bound. -/
  | above
  deriving DecidableEq, Repr

namespace Comparison

def symbol : Comparison → String
  | atMost => "<="
  | above => ">"

def ofSymbol? (symbol : String) : Option Comparison := [atMost, above].find? (·.symbol == symbol)

end Comparison

structure Threshold (V : Type) where
  bound : V
  comparison : Comparison

end SeriesQuery
