import SeriesQuery.Curve
import SeriesQuery.Proofs.Grid
import SeriesQuery.Proofs.SortedMap
/-!
Steps folded one point at a time, compared with reducing the values of each step at once. The only
thing a summary knows beyond the values is the instant of its latest point, and over points in the
order of time it never decides anything.
-/
namespace SeriesQuery

variable {V : Type} [Scalar V]

namespace Summary

/-- Equal in everything that a reduction reads. -/
structure SameValues (a b : Summary V) : Prop where
  sum : a.sum = b.sum
  count : a.count = b.count
  least : a.least = b.least
  greatest : a.greatest = b.greatest
  latest : a.latest = b.latest

theorem SameValues.finish {a b : Summary V} (same : a.SameValues b) (reducer : TimeReducer)
    (stepSeconds : V) : reducer.finish a stepSeconds = reducer.finish b stepSeconds := by
  cases reducer <;>
    simp [TimeReducer.finish, Summary.average, same.sum, same.count, same.least, same.greatest,
      same.latest]

/-- Two summaries stay equal when one value comes to both, at no earlier instant than any so far. -/
theorem SameValues.push {a b : Summary V} (same : a.SameValues b) {first second : Int}
    (forward : a.latestAt ≤ first) (onward : b.latestAt ≤ second) (value : V) :
    (a.push first value).SameValues (b.push second value) where
  sum := by simp [Summary.push, merge, single, same.sum]
  count := by simp [Summary.push, merge, single, same.count]
  least := by simp [Summary.push, merge, single, same.least]
  greatest := by simp [Summary.push, merge, single, same.greatest]
  latest := by simp [Summary.push, merge, single, forward, onward]

theorem latestAt_push {summary : Summary V} {instant : Int} (forward : summary.latestAt ≤ instant)
    (value : V) : (summary.push instant value).latestAt = instant := by
  simp [push, merge, single, forward]

/-- Instants in the order of time and mere positions lead to the same values. -/
theorem sameValues_foldl (position : Nat) {points : List (Int × V)} {a b : Summary V}
    (same : a.SameValues b) (sorted : points.Pairwise fun a b => compare a.1 b.1 = .lt)
    (forward : ∀ point ∈ points, a.latestAt ≤ point.1) (onward : b.latestAt ≤ position) :
    (points.foldl (fun summary point => summary.push point.1 point.2) a).SameValues
      ((((points.map (·.2)).zipIdx position).map fun (value, position) =>
        ((position : Int), value)).foldl
          (fun summary point => summary.push point.1 point.2) b) := by
  induction points generalizing a b position with
  | nil => exact same
  | cons point rest ih =>
      rcases List.pairwise_cons.mp sorted with ⟨above, tail⟩
      have here := forward point List.mem_cons_self
      simp only [List.map_cons, List.zipIdx_cons, List.foldl_cons]
      apply ih (position + 1) (same.push here onward point.2) tail
      · intro later member
        rw [latestAt_push here]
        exact Int.le_of_lt (Int.compare_eq_lt.mp (above later member))
      · rw [latestAt_push onward]
        omega

end Summary

/-- The summary of points in the order of time reduces to the reduction of their values. -/
theorem TimeReducer.map_finish_ofList? (reducer : TimeReducer) (stepSeconds : V)
    {points : List (Int × V)} (sorted : points.Pairwise fun a b => compare a.1 b.1 = .lt) :
    (Summary.ofList? points).map (reducer.finish · stepSeconds) =
      reducer.reduce (points.map (·.2)) stepSeconds := by
  cases points with
  | nil => rfl
  | cons point rest =>
      rcases List.pairwise_cons.mp sorted with ⟨above, tail⟩
      have start : (Summary.single point.1 point.2).SameValues (Summary.single 0 point.2) :=
        ⟨rfl, rfl, rfl, rfl, rfl⟩
      have whole := Summary.sameValues_foldl 1 start tail
        (fun later member => Int.le_of_lt (Int.compare_eq_lt.mp (above later member)))
        (by simp [Summary.single])
      simp only [Summary.ofList?, TimeReducer.reduce, List.map_cons, List.zipIdx_cons,
        Option.map_some]
      exact congrArg some (whole.finish reducer stepSeconds)

namespace Grid

theorem foldl_push (points : List (Int × V)) (summary : Summary V) :
    points.foldl (fun old point => some (match old with
      | none => Summary.single point.1 point.2
      | some summary => summary.push point.1 point.2)) (some summary) =
      some (points.foldl (fun summary point => summary.push point.1 point.2) summary) := by
  induction points generalizing summary with
  | nil => rfl
  | cons point rest ih => exact ih _

/-- At each boundary stands the summary of the points of its step. -/
theorem get?_summaries (grid : Grid) (points : List (Int × V)) (boundary : Int) :
    (grid.summaries points).get? boundary =
      Summary.ofList? (points.filter fun point => grid.stepOf? point.1 = some boundary) := by
  have gathered : (grid.summaries points).get? boundary =
      (points.filter fun point => grid.stepOf? point.1 = some boundary).foldl
        (fun old point => some (match old with
          | none => Summary.single point.1 point.2
          | some summary => summary.push point.1 point.2)) none := by
    rw [summaries]
    apply SortedMap.get?_foldl_update
    · intro steps point off
      simp [off]
    · rintro steps ⟨instant, value⟩ boundary on
      dsimp only
      split
      · rename_i off
        cases on.symm.trans off
      · rename_i found
        cases on.symm.trans found
        rfl
  rw [gathered]
  cases points.filter fun point => grid.stepOf? point.1 = some boundary with
  | nil => rfl
  | cons first rest => exact foldl_push rest _

end Grid

/-- A curve has at a boundary what its reducer makes of the values in the step, in their order. -/
theorem Curve.get?_ofSummaries (labels : Labels) (grid : Grid) (reducer : TimeReducer)
    (stepSeconds : V) {points : List (Int × V)}
    (sorted : points.Pairwise fun a b => compare a.1 b.1 = .lt) (boundary : Int) :
    (Curve.ofSummaries labels (grid.summaries points) reducer stepSeconds).points.get? boundary =
      reducer.reduce ((points.filter fun point => grid.stepOf? point.1 = some boundary).map (·.2))
        stepSeconds := by
  rw [ofSummaries, SortedMap.get?_mapValues, Grid.get?_summaries]
  exact reducer.map_finish_ofList? stepSeconds (sorted.filter _)

theorem TimeReducer.reduce_isSome (reducer : TimeReducer) (values : List V) (stepSeconds : V) :
    (reducer.reduce values stepSeconds).isSome ↔ values ≠ [] := by
  cases values with
  | nil => simp [reduce, Summary.ofList?]
  | cons value rest => simp [reduce, Summary.ofList?]

end SeriesQuery
