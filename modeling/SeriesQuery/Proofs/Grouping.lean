import SeriesQuery.Grouping
import SeriesQuery.Proofs.Schedule
import SeriesQuery.Proofs.SortedMap
/-!
Groups of curves, pointwise: a group stands for the curves that share its labels, and at a step it
holds what its members have there, in the order in which they came.
-/
namespace SeriesQuery

open SortedMap

theorem SpaceReducer.reduce_nil {V : Type} [Scalar V] (reducer : SpaceReducer) :
    reducer.reduce ([] : List V) = none := rfl

namespace Grouping

variable {V : Type}

theorem foldl_addPoints (members : List (Curve V)) (steps : GroupSteps V) :
    members.foldl (fun steps curve => addPoints steps curve.points.entries) steps =
      (members.flatMap (·.points.entries)).foldl
        (fun steps point => steps.update point.1 fun old => old.getD [] ++ [point.2]) steps := by
  rw [List.foldl_flatMap]
  rfl

theorem get?_foldl_addPoints (members : List (Curve V)) (boundary : Int) :
    (members.foldl (fun steps curve => addPoints steps curve.points.entries) ∅).get? boundary =
      unlessNil (members.filterMap (·.points.get? boundary)) := by
  rw [foldl_addPoints, get?_foldl_append (fun point : Int × V => point.1)
    (fun point => point.2) (fun _ _ => rfl)]
  congr 1
  induction members with
  | nil => rfl
  | cons curve rest ih =>
      rw [List.flatMap_cons, List.filter_append, List.map_append, ih, filter_entries,
        List.filterMap_cons]
      cases curve.points.get? boundary <;> simp

theorem foldl_some_addPoints (members : List (Curve V)) (steps : GroupSteps V) :
    members.foldl (fun old curve => some (addPoints (old.getD ∅) curve.points.entries))
      (some steps) =
    some (members.foldl (fun steps curve => addPoints steps curve.points.entries) steps) := by
  induction members generalizing steps with
  | nil => rfl
  | cons curve rest ih => exact ih _

/-- The curves with points that share the labels of a group. -/
def members (names : List String) (keepBound : Bool) (curves : List (Curve V)) (labels : Labels) :
    List (Curve V) :=
  curves.filter fun curve =>
    !curve.points.isEmpty && curve.labels.groupKey names keepBound = labels

theorem get?_ofCurves (names : List String) (keepBound : Bool) (curves : List (Curve V))
    (labels : Labels) :
    (ofCurves names keepBound curves).get? labels =
      (unlessNil (members names keepBound curves labels)).map fun members =>
        members.foldl (fun steps curve => addPoints steps curve.points.entries) ∅ := by
  have gathered : (ofCurves names keepBound curves).get? labels =
      (members names keepBound curves labels).foldl
        (fun old curve => some (addPoints (old.getD ∅) curve.points.entries)) none := by
    rw [ofCurves]
    rw [get?_foldl_update
      (fun curve => if curve.points.isEmpty then none
        else some (curve.labels.groupKey names keepBound))
      (fun curve old => addPoints (old.getD ∅) curve.points.entries)]
    · rw [members]
      congr 2
      funext curve
      cases curve.points.isEmpty <;> simp
    · intro groups curve nameless
      cases empty : curve.points.isEmpty <;> simp_all [accept]
    · intro groups curve key named
      cases empty : curve.points.isEmpty <;> simp_all [accept]
  rw [gathered]
  cases members names keepBound curves labels with
  | nil => rfl
  | cons first rest => exact foldl_some_addPoints rest _

theorem members_ne_nil_iff {names : List String} {keepBound : Bool} {curves : List (Curve V)}
    {labels : Labels} :
    members names keepBound curves labels ≠ [] ↔
      ∃ curve ∈ curves, curve.points.isEmpty = false ∧
        curve.labels.groupKey names keepBound = labels := by
  rw [members, Ne, List.filter_eq_nil_iff]
  simp

/-- The groups are those of the curves with points. -/
theorem mem_keys_ofCurves {names : List String} {keepBound : Bool} {curves : List (Curve V)}
    {labels : Labels} :
    labels ∈ (ofCurves names keepBound curves).keys ↔
      members names keepBound curves labels ≠ [] := by
  rw [mem_keys, get?_ofCurves, Option.isSome_map, isSome_unlessNil]

/-- What is gathered for a group at a step, if the group has the step. -/
def gathered? (groups : Grouping V) (labels : Labels) (boundary : Int) : Option (List V) :=
  (groups.get? labels).bind (·.get? boundary)

/-- A group holds at a step what its members have there, in the order in which they came. -/
theorem gathered?_ofCurves (names : List String) (keepBound : Bool) (curves : List (Curve V))
    (labels : Labels) (boundary : Int) :
    (ofCurves names keepBound curves).gathered? labels boundary =
      unlessNil ((members names keepBound curves labels).filterMap (·.points.get? boundary)) := by
  rw [gathered?, get?_ofCurves]
  cases held : members names keepBound curves labels with
  | nil => rfl
  | cons first rest => exact get?_foldl_addPoints (first :: rest) boundary

/-- Curves without points make no groups. -/
theorem ofCurves_filled (names : List String) (keepBound : Bool) (curves : List (Curve V)) :
    ofCurves names keepBound (curves.filter fun curve => !curve.points.isEmpty) =
      ofCurves names keepBound curves := by
  rw [ofCurves, ofCurves, List.foldl_filter]
  congr 1
  funext groups curve
  cases empty : curve.points.isEmpty <;> simp [accept, empty]

theorem listed_perm (groups : Grouping V) (listing : Labels → Nat) :
    (groups.listed listing).Perm groups.entries :=
  Schedule.byRank_perm _ _

@[simp] theorem listed_default (groups : Grouping V) :
    groups.listed (fun _ => 0) = groups.entries :=
  Schedule.byRank_const 0 groups.entries

variable [Scalar V]

theorem ordered_perm (groups : Grouping V) (listing : Labels → Nat) :
    (groups.ordered listing).Perm groups.entries :=
  (List.mergeSort_perm _ _).trans (groups.listed_perm listing)

theorem labels_reduce (groups : Grouping V) (reducer : SpaceReducer) (listing : Labels → Nat) :
    (groups.reduce reducer listing).map (·.labels) = (groups.ordered listing).map (·.1) := by
  simp [reduce, reduceGroup]

theorem labels_reduce_nodup (groups : Grouping V) (reducer : SpaceReducer)
    (listing : Labels → Nat) : ((groups.reduce reducer listing).map (·.labels)).Nodup := by
  rw [labels_reduce]
  exact ((groups.ordered_perm listing).map Prod.fst).nodup_iff.mpr (keys_nodup groups)

variable {listing : Labels → Nat}

theorem mem_reduce {groups : Grouping V} {reducer : SpaceReducer} {curve : Curve V} :
    curve ∈ groups.reduce reducer listing ↔
      ∃ steps, groups.get? curve.labels = some steps ∧
        reduceGroup reducer curve.labels steps = curve := by
  rw [reduce]
  rw [List.mem_map]
  constructor
  · intro parts
    rcases parts with ⟨⟨labels, steps⟩, member, rfl⟩
    exact ⟨steps, get?_eq_some_iff.mpr ((groups.ordered_perm listing).mem_iff.mp member), rfl⟩
  · intro parts
    rcases parts with ⟨steps, found, same⟩
    have member := (groups.ordered_perm listing).mem_iff.mpr (get?_eq_some_iff.mp found)
    exact ⟨(curve.labels, steps), member, same⟩

theorem exists_mem_reduce_iff (names : List String) (keepBound : Bool) (curves : List (Curve V))
    (reducer : SpaceReducer) (labels : Labels) :
    (∃ curve ∈ (ofCurves names keepBound curves).reduce reducer listing, curve.labels = labels) ↔
      ∃ curve ∈ curves, curve.points.isEmpty = false ∧
        curve.labels.groupKey names keepBound = labels := by
  rw [← members_ne_nil_iff, ← mem_keys_ofCurves, mem_keys, Option.isSome_iff_exists]
  constructor
  · intro parts
    rcases parts with ⟨curve, member, rfl⟩
    rcases mem_reduce.mp member with ⟨steps, found, -⟩
    exact ⟨steps, found⟩
  · intro parts
    rcases parts with ⟨steps, found⟩
    exact ⟨reduceGroup reducer labels steps, mem_reduce.mpr ⟨steps, found, rfl⟩, rfl⟩

/-- What a reduced group has at a step: the reduction of what is gathered there. -/
theorem get?_reduceGroup {groups : Grouping V} {labels : Labels} {steps : GroupSteps V}
    (found : groups.get? labels = some steps) (reducer : SpaceReducer) (boundary : Int) :
    (reduceGroup reducer labels steps).points.get? boundary =
      (groups.gathered? labels boundary).bind reducer.reduce := by
  rw [gathered?, found]
  exact get?_filterMap _ _ _

/-- What a reduced group has at a step: the reduction of what its members have there. -/
theorem get?_of_mem_reduce {names : List String} {keepBound : Bool} {curves : List (Curve V)}
    {reducer : SpaceReducer} {group : Curve V}
    (member : group ∈ (ofCurves names keepBound curves).reduce reducer listing) (boundary : Int) :
    group.points.get? boundary = reducer.reduce (curves.filterMap fun curve =>
      if curve.labels.groupKey names keepBound = group.labels then curve.points.get? boundary
      else none) := by
  rcases mem_reduce.mp member with ⟨steps, found, same⟩
  have points := get?_reduceGroup found reducer boundary
  rw [same, gathered?_ofCurves, unlessNil_bind reducer.reduce_nil, members,
    List.filterMap_filter] at points
  rw [points]
  congr 2
  funext curve
  cases empty : curve.points.isEmpty
  · simp
  · simp [isEmpty_eq_true_iff.mp empty boundary]

end Grouping

end SeriesQuery
