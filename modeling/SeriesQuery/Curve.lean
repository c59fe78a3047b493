import SeriesQuery.Grid
import SeriesQuery.Labels
import SeriesQuery.Reducer.Time
/-! Points gathered into the steps of a grid, and the curve of one value per step. -/
namespace SeriesQuery

/-- Labelled values by the boundaries of steps; a step without a value is a gap. -/
structure Curve (V : Type) where
  labels : Labels
  points : SortedMap Int V

variable {V : Type} [Scalar V]

/-- A summary per step that has points; points off the grid are left out. -/
def Grid.summaries (grid : Grid) (points : List (Int × V)) : SortedMap Int (Summary V) :=
  points.foldl
    (fun steps (instant, value) =>
      match grid.stepOf? instant with
      | none => steps
      | some boundary => steps.update boundary fun
        | none => .single instant value
        | some summary => summary.push instant value)
    ∅

def Curve.ofSummaries (labels : Labels) (steps : SortedMap Int (Summary V))
    (reducer : TimeReducer) (stepSeconds : V) : Curve V :=
  ⟨labels, steps.mapValues fun _ summary => reducer.finish summary stepSeconds⟩

end SeriesQuery
