/-! Sets of characters given as increasing, disjoint ranges of code points. -/
namespace SeriesQuery.Text

abbrev CodePoints := List (Nat × Nat)

def CodePoints.has (code : Nat) : CodePoints → Bool
  | [] => false
  | (low, high) :: rest =>
    if code < low then false else if code ≤ high then true else CodePoints.has code rest

end SeriesQuery.Text
