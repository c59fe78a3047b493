import SeriesQuery.Curve
import SeriesQuery.Reducer.Space
import SeriesQuery.Schedule
/-! Curves gathered into groups by some of their labels, and each group reduced step by step. -/
namespace SeriesQuery

namespace Labels

/-- By all labels but the bound, then by the bound as a number; labels without a bound come
first. -/
def compareByBound (V : Type) [Scalar V] (a b : Labels) : Ordering :=
  (compare (a.erase boundLabel) (b.erase boundLabel)).then <|
    match (a.bound? : Option V), (b.bound? : Option V) with
    | some x, some y => Scalar.compareTotal x y
    | some _, none => .gt
    | none, some _ => .lt
    | none, none => compare (a.get? boundLabel) (b.get? boundLabel)

/-- The labels that a group shares; histograms keep their buckets apart. -/
def groupKey (labels : Labels) (names : List String) (keepBound : Bool) : Labels :=
  let key := labels.project names
  match keepBound, labels.get? boundLabel with
  | true, some bound => key.insert boundLabel bound
  | _, _ => key

end Labels

/-- The values of a group by step, in the order in which its members came. -/
abbrev GroupSteps (V : Type) := SortedMap Int (List V)

/-- Groups by the labels that their members share. -/
abbrev Grouping (V : Type) := SortedMap Labels (GroupSteps V)

namespace Grouping

variable {V : Type}

def addPoints (steps : GroupSteps V) (points : List (Int × V)) : GroupSteps V :=
  points.foldl
    (fun steps (boundary, value) => steps.update boundary fun old => old.getD [] ++ [value]) steps

/-- Adds a curve to its group; one without points makes no group. -/
def accept (names : List String) (keepBound : Bool) (groups : Grouping V) (curve : Curve V) :
    Grouping V :=
  if curve.points.isEmpty then groups
  else
    groups.update (curve.labels.groupKey names keepBound) fun old =>
      addPoints (old.getD ∅) curve.points.entries

def ofCurves (names : List String) (keepBound : Bool) (curves : List (Curve V)) : Grouping V :=
  curves.foldl (accept names keepBound) ∅

/-- The groups as a map lists them. -/
def listed (groups : Grouping V) (listing : Labels → Nat) : List (Labels × GroupSteps V) :=
  Schedule.byRank (fun group => listing group.1) groups.entries

variable [Scalar V]

/-- Listed groups in the order of answers; those whose bounds are the same number stay as they are
listed. -/
def arrange (groups : List (Labels × GroupSteps V)) : List (Labels × GroupSteps V) :=
  groups.mergeSort fun a b => Labels.compareByBound V a.1 b.1 != .gt

def ordered (groups : Grouping V) (listing : Labels → Nat := fun _ => 0) :
    List (Labels × GroupSteps V) :=
  arrange (groups.listed listing)

def reduceGroup (reducer : SpaceReducer) (labels : Labels) (steps : GroupSteps V) : Curve V :=
  ⟨labels, steps.filterMap fun _ values => reducer.reduce values⟩

def reduce (groups : Grouping V) (reducer : SpaceReducer)
    (listing : Labels → Nat := fun _ => 0) : List (Curve V) :=
  (groups.ordered listing).map fun (labels, steps) => reduceGroup reducer labels steps

end Grouping

end SeriesQuery
