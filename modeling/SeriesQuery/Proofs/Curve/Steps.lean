import Mathlib.Algebra.GroupWithZero.Nat
import SeriesQuery.Proofs.Curve
import SeriesQuery.Proofs.Exact
/-!
What the steps of a grid hold together. Main statement: folding points into the steps one at a time
comes to the same as reducing the values of each step at once, with every point in the grid counted
in one step and the points off it nowhere.
-/
namespace SeriesQuery

namespace Grid

/-- The points between the ends of a grid. -/
def inside {V : Type} (grid : Grid) (points : List (Int × V)) : List (Int × V) :=
  points.filter fun point => grid.start ≤ point.1 ∧ point.1 < grid.stop

/-- The values of the points in a step, in their order. -/
def valuesIn {V : Type} (grid : Grid) (boundary : Int) (points : List (Int × V)) : List V :=
  (points.filter fun point => grid.stepOf? point.1 = some boundary).map (·.2)

theorem inside_eq {V : Type} (grid : Grid) (points : List (Int × V)) :
    grid.inside points = points.filter fun point => (grid.stepOf? point.1).isSome := by
  refine List.filter_congr fun point _ => ?_
  rw [Bool.eq_iff_iff, decide_eq_true_eq, stepOf?_isSome_iff]

end Grid

section Joined

variable {M : Type} {join : M → M → M} {neutral : M} (folds : Scalar.Folds join neutral)

include folds

theorem Scalar.Folds.foldl_join (amounts : List M) (a b : M) :
    amounts.foldl join (join a b) = join (amounts.foldl join a) b := by
  have : Std.Associative join := ⟨folds.assoc⟩
  calc amounts.foldl join (join a b)
    _ = amounts.foldl join (join b a) := by rw [folds.comm]
    _ = join b (amounts.foldl join a) := List.foldl_assoc
    _ = join (amounts.foldl join a) b := folds.comm _ _

/-- What joins the entry of a key, or begins it, joins what all entries come to. -/
theorem SortedMap.foldl_place {K W : Type} [Ord K] {measure : W → M} {change : Option W → W}
    {amount : M} (fresh : measure (change none) = amount)
    (joined : ∀ held, measure (change (some held)) = join (measure held) amount) (key : K)
    (entries : List (K × W)) (start : M) :
    ((place key change entries).map fun entry => measure entry.2).foldl join start =
      join ((entries.map fun entry => measure entry.2).foldl join start) amount := by
  induction entries generalizing start with
  | nil => simp [place, fresh]
  | cons head rest ih =>
      rcases head with ⟨k, held⟩
      rw [place]
      split
      · simp only [List.map_cons, List.foldl_cons, fresh]
        rw [← folds.foldl_join, folds.assoc, folds.comm amount, ← folds.assoc]
      · simp only [List.map_cons, List.foldl_cons, joined]
        rw [← folds.foldl_join, folds.assoc]
      · simp only [List.map_cons, List.foldl_cons]
        exact ih _

namespace Grid

variable {V : Type} [Scalar V] (grid : Grid)

/--
What a summary tells of each of its points, in any order and any parts, the steps of a grid tell of
the points inside it.
-/
theorem foldl_summaries (measure : Summary V → M) (amount : V → M)
    (single : ∀ instant value, measure (.single instant value) = amount value)
    (push : ∀ summary instant value,
      measure (summary.push instant value) = join (measure summary) (amount value))
    (points : List (Int × V)) (start : M) :
    ((grid.summaries points).values.map measure).foldl join start =
      ((grid.inside points).map fun point => amount point.2).foldl join start := by
  rw [summaries, inside_eq]
  change _ = ((points.filter fun point => (grid.stepOf? point.1).isSome).map
    fun point => amount point.2).foldl join
      (((∅ : SortedMap Int (Summary V)).values.map measure).foldl join start)
  generalize (∅ : SortedMap Int (Summary V)) = steps
  induction points generalizing steps with
  | nil => rfl
  | cons point rest ih =>
      rw [List.foldl_cons, ih]
      cases found : grid.stepOf? point.1 with
      | none => simp [found]
      | some boundary =>
          rw [List.filter_cons_of_pos (by simp [found]), List.map_cons, List.foldl_cons]
          congr 1
          simp only [found, SortedMap.values, SortedMap.update, List.map_map]
          exact SortedMap.foldl_place folds (single _ _) (fun held => push held _ _) boundary _ _

end Grid

end Joined

namespace Grid

variable {V : Type} [Scalar V] (grid : Grid)

theorem count_summaries (points : List (Int × V)) :
    ((grid.summaries points).values.map (·.count)).sum = (grid.inside points).length := by
  have folds : Scalar.Folds (· + ·) 0 := ⟨Nat.add_comm, Nat.add_assoc, rfl⟩
  have counted : ((grid.summaries points).values.map (·.count)).foldl (· + ·) 0 =
      ((grid.inside points).map fun _ => 1).foldl (· + ·) 0 :=
    grid.foldl_summaries folds _ (fun _ => 1) (fun _ _ => rfl) (fun _ _ _ => rfl) points 0
  rw [List.sum_eq_foldl, counted, ← List.sum_eq_foldl]
  rw [List.map_const', List.sum_replicate_nat, Nat.mul_one]

/-- Points off the grid leave no trace. -/
theorem summaries_congr {points others : List (Int × V)}
    (same : grid.inside points = grid.inside others) :
    grid.summaries points = grid.summaries others := by
  apply SortedMap.ext_get?
  intro boundary
  have within (points : List (Int × V)) :
      (points.filter fun point => grid.stepOf? point.1 = some boundary) =
        (grid.inside points).filter fun point => grid.stepOf? point.1 = some boundary := by
    rw [inside_eq, List.filter_filter]
    refine List.filter_congr fun point _ => ?_
    cases grid.stepOf? point.1 <;> simp
  rw [get?_summaries, get?_summaries, within points, within others, same]

end Grid

namespace Curve

variable {V : Type} [Scalar V]

/-- A curve has a value at a boundary just where a point is in the step. -/
theorem isSome_get?_ofSummaries (labels : Labels) (grid : Grid) (reducer : TimeReducer)
    (stepSeconds : V) (points : List (Int × V)) (boundary : Int) :
    let curve := ofSummaries labels (grid.summaries points) reducer stepSeconds
    (curve.points.get? boundary).isSome ↔
      ∃ point ∈ points, grid.stepOf? point.1 = some boundary := by
  intro curve
  have filled (points : List (Int × V)) :
      (Summary.ofList? points).isSome ↔ points ≠ [] := by
    cases points <;> simp [Summary.ofList?]
  simp only [curve, ofSummaries]
  rw [SortedMap.get?_mapValues, Option.isSome_map, Grid.get?_summaries, filled, Ne,
    List.filter_eq_nil_iff]
  simp

/--
Points in the order of time, folded into steps as they come: a boundary has a value where a point
is in its step, and the value is what the reducer makes of the values of those points at once. The
steps count the points inside the grid, and other points might as well not be there.
-/
theorem ofSummaries_gathers (labels : Labels) (grid : Grid) (reducer : TimeReducer)
    (stepSeconds : V) (points : List (Int × V))
    (sorted : points.Pairwise fun earlier later => earlier.1 < later.1) :
    (∀ boundary,
      let value? :=
        (ofSummaries labels (grid.summaries points) reducer stepSeconds).points.get? boundary
      (value?.isSome ↔ ∃ point ∈ points, grid.stepOf? point.1 = some boundary) ∧
        value? = reducer.reduce (grid.valuesIn boundary points) stepSeconds) ∧
      ((grid.summaries points).values.map (·.count)).sum = (grid.inside points).length ∧
      ∀ others, grid.inside others = grid.inside points →
        grid.summaries others = grid.summaries points := by
  have ordered : points.Pairwise fun earlier later => compare earlier.1 later.1 = .lt :=
    sorted.imp Int.compare_eq_lt.mpr
  refine ⟨fun boundary => ⟨?_, ?_⟩, grid.count_summaries points, fun others same => ?_⟩
  · exact isSome_get?_ofSummaries labels grid reducer stepSeconds points boundary
  · exact get?_ofSummaries labels grid reducer stepSeconds ordered boundary
  · exact grid.summaries_congr same

/-- Readings before a grid, in two of its three steps and at its end. -/
def readings : List (Int × Float) := [(-5, 9), (0, 1), (30000, -0), (120000, 4), (150000, 7)]

theorem ofSummaries_gathers_readings :
    let grid : Grid := ⟨0, 150000, 60000, by decide, by decide⟩
    let value? (reducer : TimeReducer) :=
      (ofSummaries ∅ (grid.summaries readings) reducer 60).points.get?
    readings.Pairwise (fun earlier later => earlier.1 < later.1) ∧
      (∀ reducer, value? reducer 0 = reducer.reduce [1, -0] 60 ∧
        value? reducer 60000 = none ∧ value? reducer 120000 = reducer.reduce [4] 60) ∧
      ((grid.summaries readings).values.map (·.count)).sum = 3 ∧
      grid.summaries [(0, 1), (30000, -0), (120000, 4)] = grid.summaries readings := by
  intro grid value?
  have sorted : readings.Pairwise fun earlier later => earlier.1 < later.1 := by decide
  have gathers (reducer : TimeReducer) :=
    ofSummaries_gathers ∅ grid reducer 60 readings sorted
  have first : grid.valuesIn 0 readings = [1, -0] := by
    simp [readings, grid, Grid.valuesIn, Grid.stepOf?]
  have second : grid.valuesIn 60000 readings = [] := by
    simp [readings, grid, Grid.valuesIn, Grid.stepOf?]
  have third : grid.valuesIn 120000 readings = [4] := by
    simp [readings, grid, Grid.valuesIn, Grid.stepOf?]
  refine ⟨sorted, fun reducer => ⟨?_, ?_, ?_⟩, (gathers .sum).2.1, (gathers .sum).2.2 _ rfl⟩
  · rw [← first]
    exact ((gathers reducer).1 0).2
  · have empty := ((gathers reducer).1 60000).2
    rwa [second] at empty
  · rw [← third]
    exact ((gathers reducer).1 120000).2

end Curve

end SeriesQuery
