import SeriesQuery.Engine
import SeriesQuery.Proofs.Bucket
import SeriesQuery.Proofs.Curve
import SeriesQuery.Proofs.Increments
import SeriesQuery.Proofs.Schedule
import SeriesQuery.Proofs.Store
/-!
Data moved in time as a whole: samples, steps and curves by one offset. Everything from a stored
sample to a collapsed group of buckets moves along, for each operation does.
-/
namespace SeriesQuery

open SortedMap

variable {V W : Type}

/-- A value at a moved instant. -/
def moved (offset : Int) (sample : Int × V) : Int × V := (sample.1 + offset, sample.2)

namespace SortedMap

def shift (map : SortedMap Int V) (offset : Int) : SortedMap Int V where
  entries := map.entries.map (moved offset)
  sorted := by
    refine List.pairwise_map.mpr (map.sorted.imp fun less => ?_)
    have := Int.compare_eq_lt.mp less
    exact Int.compare_eq_lt.mpr (by simp only [moved]; omega)

@[simp] theorem get?_shift (map : SortedMap Int V) (offset key : Int) :
    (map.shift offset).get? key = map.get? (key - offset) := by
  ext value
  rw [get?_eq_some_iff, get?_eq_some_iff, shift, List.mem_map]
  constructor
  · rintro ⟨entry, member, same⟩
    cases same
    rwa [Int.add_sub_cancel]
  · intro member
    exact ⟨_, member, by rw [moved, Int.sub_add_cancel]⟩

@[simp] theorem isEmpty_shift (map : SortedMap Int V) (offset : Int) :
    (map.shift offset).isEmpty = map.isEmpty := List.isEmpty_map

theorem values_shift (map : SortedMap Int V) (offset : Int) :
    (map.shift offset).values = map.values := List.map_map

theorem update_shift (map : SortedMap Int V) (offset key : Int) (change : Option V → V) :
    (map.shift offset).update (key + offset) change = (map.update key change).shift offset := by
  apply ext_get?
  intro other
  rw [get?_update, get?_shift, get?_shift, get?_shift, get?_update, Int.add_sub_cancel]
  by_cases same : other = key + offset
  · rw [if_pos same, if_pos (by omega)]
  · rw [if_neg same, if_neg (by omega)]

theorem filterMap_shift (map : SortedMap Int V) (offset : Int) (change : V → Option W) :
    (map.shift offset).filterMap (fun _ => change) =
      (map.filterMap fun _ => change).shift offset := by
  apply ext_get?
  intro key
  simp

theorem filter_shift (map : SortedMap Int V) (offset : Int) (keep : Int → V → Bool) :
    (map.shift offset).filter keep =
      (map.filter fun key => keep (key + offset)).shift offset := by
  apply ext_get?
  intro key
  simp

/-- Changing the values commutes with an update that does. -/
theorem update_mapValues {K : Type} [Ord K] [Std.TransOrd K] [Std.LawfulEqOrd K] [DecidableEq K]
    (map : SortedMap K V) (key : K) (move : V → W) {change : Option V → V}
    {change' : Option W → W} (same : ∀ old, change' (old.map move) = move (change old)) :
    (map.mapValues fun _ => move).update key change' =
      (map.update key change).mapValues fun _ => move := by
  apply ext_get?
  intro other
  rw [get?_update, get?_mapValues, get?_mapValues, get?_mapValues, get?_update, same]
  by_cases here : other = key
  · rw [if_pos here, if_pos here]
    rfl
  · rw [if_neg here, if_neg here]

end SortedMap

/-! Stored series -/

def Increments.shift (increments : Increments V) (offset : Int) : Increments V :=
  { increments with points := increments.points.map (moved offset) }

namespace Series

def shift (series : Series V) (offset : Int) : Series V :=
  { series with samples := series.samples.shift offset }

theorem range_shift (series : Series V) (offset start stop : Int) :
    (series.shift offset).range (start + offset) (stop + offset) =
      (series.range start stop).shift offset := by
  simp only [range_eq_filter, shift, filter_shift]
  congr 3
  funext instant _
  simp

theorem upsert_shift (series : Series V) (offset instant : Int) (value : V) :
    (series.shift offset).upsert (instant + offset) value =
      (series.upsert instant value).shift offset := by
  simp only [upsert, shift, SortedMap.put_eq_insert, SortedMap.insert, update_shift]

theorem successions_shift (series : Series V) (offset start : Int) :
    (series.shift offset).successions (start + offset) =
      (series.successions start).map fun (before, sample) => (before, moved offset sample) := by
  have zipped (earlier later : List (Int × V)) :
      (earlier.map (moved offset)).zipWith (fun before after => (before.2, after))
          (later.map (moved offset)) =
        (earlier.zipWith (fun before after => (before.2, after)) later).map
          fun (before, sample) => (before, moved offset sample) := by
    rw [List.zipWith_map, List.map_zipWith]
    rfl
  simp only [successions, shift, SortedMap.shift]
  rw [← List.map_tail, zipped, List.filter_map]
  congr 2
  funext succession
  simp [moved]

/-- Series that move in time count the same. -/
theorem increments_shift [Scalar V] (series : Series V) (offset start : Int) :
    (series.shift offset).increments (start + offset) =
      (series.increments start).shift offset := by
  have same : (series.shift offset).isRunningTotal = series.isRunningTotal := rfl
  simp only [increments, same, successions_shift, Increments.shift]
  cases series.isRunningTotal with
  | true =>
      have first : (series.shift offset).samples.entries.head?.any
          (fun first => decide (start + offset ≤ first.1)) =
            series.samples.entries.head?.any fun first => decide (start ≤ first.1) := by
        simp [shift, SortedMap.shift, moved, Option.any_map]
      simp [first, List.countP_map, Function.comp_def, moved]
  | false =>
      simp [shift, SortedMap.shift, List.filter_map, Function.comp_def, moved]

end Series

/-! Stores -/

def Sample.shift (sample : Sample V) (offset : Int) : Sample V :=
  { sample with instant := sample.instant + offset }

namespace Store

def shift (store : Store V) (offset : Int) : Store V :=
  { store with series := store.series.mapValues fun _ series => series.shift offset }

theorem select_shift (store : Store V) (offset : Int) (metric : String) (filter : Filter)
    (start stop : Int) :
    (store.shift offset).select metric filter (start + offset) (stop + offset) =
      (store.select metric filter start stop).map (·.shift offset) := by
  have values : (store.shift offset).series.values = store.series.values.map (·.shift offset) := by
    simp [shift, SortedMap.values, SortedMap.mapValues]
  simp only [select, values, List.filter_map, List.map_map, Function.comp_def, Series.range_shift]
  simp [Series.shift]

theorem put_shift (store : Store V) (offset : Int) (key : SeriesKey) (series : Series V)
    (reserved : Nat) :
    Store.shift { store with series := store.series.insert key series, reserved := reserved }
        offset =
      { store.shift offset with
        series := (store.shift offset).series.insert key (series.shift offset)
        reserved := reserved } := by
  have inserted : (store.shift offset).series.insert key (series.shift offset) =
      (store.series.insert key series).mapValues fun _ series => series.shift offset :=
    update_mapValues store.series key (·.shift offset) fun _ => rfl
  rw [inserted]
  rfl

theorem begun_shift (sample : Sample V) (offset : Int) :
    begun (sample.shift offset) = (begun sample).shift offset := rfl

variable [Scalar V]

/-- A moved sample is stored where the sample itself is, and leads to the moved store. -/
theorem insert_shift {store grown : Store V} {sample : Sample V} (offset : Int)
    (done : store.insert sample = (grown, .ok ())) :
    (store.shift offset).insert (sample.shift offset) = (grown.shift offset, .ok ()) := by
  have stored : (store.shift offset).series.get? sample.key =
      (store.series.get? sample.key).map (·.shift offset) := by
    simp [shift]
  rcases insert_eq_ok_iff.mp done with ⟨finite, ⟨series, found, type, temporality, rfl⟩ |
    ⟨absent, room, rfl⟩⟩
  · rw [found] at stored
    refine insert_eq_ok_iff.mpr ⟨finite, .inl ⟨_, stored, type, temporality, ?_⟩⟩
    rw [put_shift, ← Series.upsert_shift]
    rfl
  · rw [absent] at stored
    refine insert_eq_ok_iff.mpr ⟨finite, .inr ⟨stored, room, ?_⟩⟩
    rw [put_shift, ← begun_shift]
    rfl

theorem Reached.shift {store : Store V} (reached : store.Reached) (offset : Int) :
    (store.shift offset).Reached := by
  induction reached with
  | empty limit => exact .empty limit
  | insert _ done ih => exact ih.insert (insert_shift offset done)

end Store

/-! Curves -/

namespace Grid

def shift (grid : Grid) (offset : Int) : Grid where
  start := grid.start + offset
  stop := grid.stop + offset
  step := grid.step
  step_pos := grid.step_pos
  start_lt_stop := Int.add_lt_add_right grid.start_lt_stop offset

theorem stepOf?_shift (grid : Grid) (offset instant : Int) :
    (grid.shift offset).stepOf? (instant + offset) =
      (grid.stepOf? instant).map (· + offset) := by
  have outside : instant + offset < grid.start + offset ∨ grid.stop + offset ≤ instant + offset ↔
      instant < grid.start ∨ grid.stop ≤ instant := by omega
  have gap : instant + offset - (grid.start + offset) = instant - grid.start := by omega
  simp only [stepOf?, shift, outside, gap]
  split
  · rfl
  · rw [Option.map_some]
    congr 1
    omega

theorem stepOf?_shift_eq_some_iff (grid : Grid) (offset instant boundary : Int) :
    (grid.shift offset).stepOf? (instant + offset) = some boundary ↔
      grid.stepOf? instant = some (boundary - offset) := by
  rw [stepOf?_shift, Option.map_eq_some_iff]
  constructor
  · rintro ⟨step, found, rfl⟩
    rw [found, Int.add_sub_cancel]
  · intro found
    exact ⟨_, found, Int.sub_add_cancel _ _⟩

end Grid

namespace Curve

def shift (curve : Curve V) (offset : Int) : Curve V :=
  { curve with points := curve.points.shift offset }

@[simp] theorem points_shift (curve : Curve V) (offset : Int) :
    (curve.shift offset).points = curve.points.shift offset := rfl

/-- Points in the order of time make the same curve at any time. -/
theorem ofSummaries_shift [Scalar V] (labels : Labels) (grid : Grid) (offset : Int)
    (reducer : TimeReducer) (stepSeconds : V) {points : List (Int × V)}
    (sorted : points.Pairwise fun a b => compare a.1 b.1 = .lt) :
    ofSummaries labels ((grid.shift offset).summaries (points.map (moved offset))) reducer
        stepSeconds =
      (ofSummaries labels (grid.summaries points) reducer stepSeconds).shift offset := by
  have later : (points.map (moved offset)).Pairwise fun a b => compare a.1 b.1 = .lt :=
    (SortedMap.shift ⟨points, sorted⟩ offset).sorted
  have points' : (ofSummaries labels ((grid.shift offset).summaries (points.map (moved offset)))
      reducer stepSeconds).points =
        (ofSummaries labels (grid.summaries points) reducer stepSeconds).points.shift offset := by
    apply ext_get?
    intro boundary
    rw [get?_shift, get?_ofSummaries _ _ _ _ later, get?_ofSummaries _ _ _ _ sorted]
    simp only [List.filter_map, List.map_map, Function.comp_def, moved,
      Grid.stepOf?_shift_eq_some_iff]
  rw [shift, ← points']
  rfl

end Curve

/-! Groups -/

namespace Grouping

theorem addPoints_shift (steps : GroupSteps V) (offset : Int) (points : List (Int × V)) :
    addPoints (steps.shift offset) (points.map (moved offset)) =
      (addPoints steps points).shift offset := by
  rw [addPoints, List.foldl_map, addPoints]
  apply List.foldl_hom (SortedMap.shift · offset)
  intro steps point
  exact update_shift steps offset point.1 _

/-- Groups whose members have moved. -/
def shift (groups : Grouping V) (offset : Int) : Grouping V :=
  groups.mapValues fun _ steps => steps.shift offset

theorem accept_shift (names : List String) (keepBound : Bool) (groups : Grouping V)
    (curve : Curve V) (offset : Int) :
    accept names keepBound (groups.shift offset) (curve.shift offset) =
      (accept names keepBound groups curve).shift offset := by
  simp only [accept, Curve.points_shift, isEmpty_shift]
  split
  · rfl
  · apply update_mapValues
    intro old
    have start : (old.map (SortedMap.shift · offset)).getD ∅ = (old.getD ∅).shift offset := by
      cases old <;> rfl
    rw [start]
    exact addPoints_shift _ offset _

theorem ofCurves_shift (names : List String) (keepBound : Bool) (curves : List (Curve V))
    (offset : Int) :
    ofCurves names keepBound (curves.map (·.shift offset)) =
      (ofCurves names keepBound curves).shift offset := by
  rw [ofCurves, List.foldl_map, ofCurves]
  change curves.foldl _ (Grouping.shift ∅ offset) = _
  apply List.foldl_hom (Grouping.shift · offset)
  intro groups curve
  exact accept_shift names keepBound groups curve offset

variable [Scalar V]

theorem ordered_shift (groups : Grouping V) (listing : Labels → Nat) (offset : Int) :
    (groups.shift offset).ordered listing =
      (groups.ordered listing).map fun (labels, steps) => (labels, steps.shift offset) := by
  have listed : (groups.shift offset).listed listing =
      (groups.listed listing).map fun (labels, steps) => (labels, steps.shift offset) :=
    Schedule.byRank_map _ _ groups.entries
  have sorted := List.map_mergeSort (f := fun (labels, steps) => (labels, steps.shift offset))
    (s := fun a b : Labels × GroupSteps V => Labels.compareByBound V a.1 b.1 != .gt)
    (r := fun a b => Labels.compareByBound V a.1 b.1 != .gt) (l := groups.listed listing)
    fun _ _ _ _ => rfl
  rw [ordered, listed]
  exact sorted.symm

theorem reduce_shift (groups : Grouping V) (reducer : SpaceReducer) (listing : Labels → Nat)
    (offset : Int) :
    (groups.shift offset).reduce reducer listing =
      (groups.reduce reducer listing).map (·.shift offset) := by
  rw [reduce, ordered_shift, reduce, List.map_map, List.map_map]
  congr 1
  funext group
  simp only [Function.comp, reduceGroup, filterMap_shift]
  rfl

end Grouping

/-! Buckets -/

namespace Bucket

variable [Scalar V]

theorem at?_shift (curve : Curve V) (offset boundary : Int) :
    at? boundary (curve.shift offset) = at? (boundary - offset) curve := by
  rw [at?, at?, Curve.shift, get?_shift]

theorem gather_shift (curves : List (Curve V)) (offset : Int) :
    gather (curves.map (·.shift offset)) = (gather curves).shift offset := by
  apply ext_get?
  intro boundary
  have reads : (at? boundary ∘ (·.shift offset)) = (at? (boundary - offset) : Curve V → _) :=
    funext fun curve => at?_shift curve offset boundary
  rw [get?_shift, get?_gather, get?_gather, List.filterMap_map, reads]

theorem evaluateGroup_shift (labels : Labels) (curves : List (Curve V)) (query : BucketQuery V)
    (offset : Int) :
    evaluateGroup labels (curves.map (·.shift offset)) query =
      ((evaluateGroup labels curves query).1.shift offset,
        (evaluateGroup labels curves query).2) := by
  simp only [evaluateGroup, gather_shift, values_shift]
  rw [filterMap_shift _ _ fun buckets => answer? (prepare buckets) query]
  rfl

end Bucket

end SeriesQuery
