import SeriesQuery.Curve
/-! Answers as callers receive them. -/
namespace SeriesQuery

/-- One curve: its labels by name, and its values by time. -/
structure AnswerSeries (V : Type) where
  labels : List (String × String)
  values : List (Int × V)

structure Answer (V : Type) where
  status : String
  series : List (AnswerSeries V)

namespace Answer

variable {V : Type}

def ofCurve (curve : Curve V) : AnswerSeries V := ⟨curve.labels.entries, curve.points.entries⟩

def success (curves : List (Curve V)) : Answer V := ⟨"success", curves.map ofCurve⟩

end Answer

end SeriesQuery
