import SeriesQuery.Bucket
import SeriesQuery.Proofs.SortedMap
/-!
The buckets of a group, step by step: each curve with a bound gives one bucket wherever it has a
count, and a step has an answer just when the buckets found there have one.
-/
namespace SeriesQuery.Bucket

open SortedMap

variable {V : Type} [Scalar V]

/-- The bucket that a curve gives at a step, if it has a bound and a count there. -/
def at? (boundary : Int) (curve : Curve V) : Option (Bucket V) := do
  let bound ← curve.labels.bound?
  let count ← curve.points.get? boundary
  return ⟨bound, count⟩

/-- The buckets of a curve with their steps. -/
def ofCurve (curve : Curve V) : List (Int × Bucket V) :=
  match (curve.labels.bound? : Option V) with
  | none => []
  | some bound => curve.points.entries.map fun (boundary, count) => (boundary, ⟨bound, count⟩)

theorem filter_ofCurve (boundary : Int) (curve : Curve V) :
    ((ofCurve curve).filter fun entry => entry.1 = boundary).map (·.2) =
      (at? boundary curve).toList := by
  unfold ofCurve at?
  cases (curve.labels.bound? : Option V) with
  | none => rfl
  | some bound =>
      have here := filter_entries curve.points boundary
      simp only [List.filter_map, List.map_map, Function.comp_def, here]
      cases curve.points.get? boundary <;> rfl

theorem gather_eq_foldl (curves : List (Curve V)) :
    gather curves = (curves.flatMap ofCurve).foldl
      (fun steps entry => steps.update entry.1 fun old => old.getD [] ++ [entry.2]) ∅ := by
  rw [List.foldl_flatMap]
  unfold gather ofCurve
  congr 1
  funext steps curve
  cases (curve.labels.bound? : Option V) with
  | none => rfl
  | some bound => rw [List.foldl_map]

/-- At each step are gathered the buckets of the curves, in the order of the curves. -/
theorem get?_gather (curves : List (Curve V)) (boundary : Int) :
    (gather curves).get? boundary = unlessNil (curves.filterMap (at? boundary)) := by
  rw [gather_eq_foldl, get?_foldl_append (fun entry : Int × Bucket V => entry.1)
    (fun entry => entry.2) (fun _ _ => rfl)]
  congr 1
  induction curves with
  | nil => rfl
  | cons curve rest ih =>
      rw [List.flatMap_cons, List.filter_append, List.map_append, ih, filter_ofCurve,
        List.filterMap_cons]
      cases at? boundary curve <;> rfl

theorem answer?_prepare_nil (query : BucketQuery V) : answer? (prepare []) query = none := by
  have nothing : prepare ([] : List (Bucket V)) = [] := by
    simp [prepare, ordered, joinEqual, raise]
  rw [nothing]
  cases query <;> rfl

theorem get?_evaluateGroup (labels : Labels) (curves : List (Curve V)) (query : BucketQuery V)
    (boundary : Int) :
    (evaluateGroup labels curves query).1.points.get? boundary =
      answer? (prepare (curves.filterMap (at? boundary))) query := by
  rw [evaluateGroup]
  dsimp only
  rw [get?_filterMap, get?_gather]
  exact unlessNil_bind (answer?_prepare_nil query) _

end SeriesQuery.Bucket
