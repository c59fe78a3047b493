import Mathlib.Algebra.GroupWithZero.Nat
import Mathlib.Data.List.Perm.Basic
import SeriesQuery.Proofs.Exact
import SeriesQuery.Proofs.Labels
import SeriesQuery.Proofs.Order
/-!
The same curves grouped by fewer and by more labels. Main statement: what a group gathers at a step
is what its finer groups gather there, with nothing lost and nothing twice, in whatever order the
curves come. So where values fold alike in any order and in any parts, reductions of groups are
reductions of what their finer groups are reduced to.
-/
namespace SeriesQuery

open SortedMap

section Lists

variable {α β : Type}

theorem perm_ne_nil_iff {values others : List α} (perm : values.Perm others) :
    values ≠ [] ↔ others ≠ [] := by
  rw [← List.length_pos_iff, ← List.length_pos_iff, perm.length_eq]

variable [DecidableEq β]

/-- Items sorted into parts by distinct keys are the items with one of the keys. -/
theorem flatMap_filter_perm (keyOf : α → β) (items : List α) {keys : List β}
    (distinct : keys.Nodup) :
    (keys.flatMap fun key => items.filter (keyOf · = key)).Perm
      (items.filter (keyOf · ∈ keys)) := by
  induction keys with
  | nil => simp
  | cons key rest ih =>
      rcases List.nodup_cons.mp distinct with ⟨fresh, others⟩
      have here : (items.filter (keyOf · ∈ key :: rest)).filter (keyOf · = key) =
          items.filter (keyOf · = key) := by
        rw [List.filter_filter]
        exact List.filter_congr fun item _ => by simp +contextual
      have there : ((items.filter (keyOf · ∈ key :: rest)).filter
          fun item => !decide (keyOf item = key)) = items.filter (keyOf · ∈ rest) := by
        rw [List.filter_filter]
        refine List.filter_congr fun item _ => ?_
        by_cases same : keyOf item = key
        · simp [same, fresh]
        · simp [same]
      -- The items of the first key and those of the others part the items of all keys, since the
      -- first key is not among the others.
      have split := List.filter_append_perm (keyOf · = key)
        (items.filter (keyOf · ∈ key :: rest))
      rw [here, there] at split
      rw [List.flatMap_cons]
      exact ((ih others).append_left _).trans split

end Lists

namespace Scalar.Folds

variable {V : Type} {join : V → V → V} {start : V}

theorem join_foldl (folds : Folds join start) (values : List V) :
    join start (values.foldl join start) = values.foldl join start := by
  have : Std.Associative join := ⟨folds.assoc⟩
  calc join start (values.foldl join start)
    _ = values.foldl join (join start start) := List.foldl_assoc.symm
    _ = values.foldl join start := by rw [folds.start]

theorem foldl_append (folds : Folds join start) (front back : List V) :
    (front ++ back).foldl join start = join (front.foldl join start) (back.foldl join start) := by
  have : Std.Associative join := ⟨folds.assoc⟩
  calc (front ++ back).foldl join start
    _ = back.foldl join (front.foldl join start) := List.foldl_append
    _ = back.foldl join (join start (front.foldl join start)) := by rw [folds.join_foldl]
    _ = back.foldl join (join (front.foldl join start) start) := by rw [folds.comm]
    _ = join (front.foldl join start) (back.foldl join start) := List.foldl_assoc

theorem foldl_perm (folds : Folds join start) {values others : List V}
    (perm : values.Perm others) : values.foldl join start = others.foldl join start := by
  have : Std.Associative join := ⟨folds.assoc⟩
  have : Std.Commutative join := ⟨folds.comm⟩
  exact perm.foldl_op_eq

/-- Values fold part by part; parts without values count for nothing. -/
theorem foldl_flatMap {α : Type} (folds : Folds join start) (parts : List α)
    (values : α → List V) :
    (parts.flatMap values).foldl join start =
      (parts.filterMap fun part => (unlessNil (values part)).map (·.foldl join start)).foldl
        join start := by
  induction parts with
  | nil => rfl
  | cons part rest ih =>
      rw [List.flatMap_cons, folds.foldl_append, ih, List.filterMap_cons]
      cases values part with
      -- A part without values gives the start, which makes no difference.
      | nil => exact folds.join_foldl _
      | cons value more =>
          rw [← folds.foldl_append, List.foldl_append]
          exact congrArg (List.foldl join · _) (folds.join_foldl (value :: more)).symm

end Scalar.Folds

namespace SpaceReducer

variable {V : Type} [Scalar V]

/-- Whether a reducer folds the values with an operation. -/
def FoldsBy (reducer : SpaceReducer) (join : V → V → V) (start : V) : Prop :=
  ∀ values, reducer.reduce values = (unlessNil values).map (·.foldl join start)

theorem sum_foldsBy : sum.FoldsBy (V := V) (· + ·) (-Scalar.ofNat 0) := by
  intro values
  cases values <;> rfl

theorem minimum_foldsBy : minimum.FoldsBy (V := V) Scalar.least Scalar.infinity := by
  intro values
  cases values <;> rfl

theorem maximum_foldsBy : maximum.FoldsBy (V := V) Scalar.greatest (-Scalar.infinity) := by
  intro values
  cases values <;> rfl

/-- Percentiles are read off sorted values, which are the same in whatever order values come. -/
theorem reduce_percentile_perm [Std.TransCmp (Scalar.compareTotal : V → V → Ordering)]
    [Std.LawfulEqCmp (Scalar.compareTotal : V → V → Ordering)] (percent : Nat)
    {values others : List V} (perm : values.Perm others) :
    (percentile percent).reduce values = (percentile percent).reduce others := by
  have sorted := mergeSort_eq_of_perm Scalar.compareTotal perm
    fun _ _ _ _ tie => Std.LawfulEqCmp.eq_of_compare tie
  rw [reduce, reduce, perm.isEmpty_eq, sorted, perm.length_eq]

section Folding

variable {reducer : SpaceReducer} {join : V → V → V} {start : V}

theorem FoldsBy.reduce (foldsBy : reducer.FoldsBy join start) {values : List V}
    (some' : values ≠ []) : reducer.reduce values = some (values.foldl join start) := by
  rw [foldsBy]
  cases values with
  | nil => exact absurd rfl some'
  | cons value rest => rfl

theorem FoldsBy.reduce_eq_none_iff (foldsBy : reducer.FoldsBy join start) {values : List V} :
    reducer.reduce values = none ↔ values = [] := by
  rw [foldsBy]
  cases values <;> simp [unlessNil]

theorem FoldsBy.reduce_perm (foldsBy : reducer.FoldsBy join start)
    (folds : Scalar.Folds join start) {values others : List V} (perm : values.Perm others) :
    reducer.reduce values = reducer.reduce others := by
  by_cases nothing : others = []
  · subst nothing
    rw [perm.eq_nil]
  · have some' := (perm_ne_nil_iff perm).mpr nothing
    rw [foldsBy.reduce some', foldsBy.reduce nothing, folds.foldl_perm perm]

/-- The reduction of all values is that of the reductions of the parts that have any. -/
theorem FoldsBy.reduce_flatMap {α : Type} (foldsBy : reducer.FoldsBy join start)
    (folds : Scalar.Folds join start) (parts : List α) (values : α → List V) :
    reducer.reduce (parts.flatMap values) =
      reducer.reduce (parts.filterMap fun part => reducer.reduce (values part)) := by
  have blank : parts.flatMap values = [] ↔
      (parts.filterMap fun part => reducer.reduce (values part)) = [] := by
    rw [List.flatMap_eq_nil_iff, List.filterMap_eq_nil_iff]
    exact forall₂_congr fun part _ => foldsBy.reduce_eq_none_iff.symm
  by_cases nothing : parts.flatMap values = []
  · rw [nothing, blank.mp nothing]
  · rw [foldsBy.reduce nothing, foldsBy.reduce (nothing ∘ blank.mpr), folds.foldl_flatMap]
    simp only [foldsBy _]

end Folding

theorem foldl_ones [Scalar.Regroupable V] (values : List V) (number : Nat) :
    (values.map fun _ => (Scalar.ofNat 1 : V)).foldl (· + ·) (Scalar.ofNat number) =
      Scalar.ofNat (number + values.length) := by
  induction values generalizing number with
  | nil => rfl
  | cons value rest ih =>
      calc ((value :: rest).map fun _ => (Scalar.ofNat 1 : V)).foldl (· + ·) (Scalar.ofNat number)
        _ = (rest.map fun _ => (Scalar.ofNat 1 : V)).foldl (· + ·) (Scalar.ofNat (number + 1)) := by
          rw [List.map_cons, List.foldl_cons, Scalar.Regroupable.succ]
        _ = Scalar.ofNat (number + 1 + rest.length) := ih (number + 1)
        _ = Scalar.ofNat (number + (value :: rest).length) := by
          rw [List.length_cons, Nat.add_right_comm, Nat.add_assoc]

/-- Counts are sums of ones. -/
theorem reduce_count_eq_sum [Scalar.Regroupable V] (values : List V) :
    count.reduce values = sum.reduce (values.map fun _ => (Scalar.ofNat 1 : V)) := by
  cases values with
  | nil => rfl
  | cons value rest =>
      rw [sum_foldsBy.reduce (by simp), List.map_cons, List.foldl_cons, Scalar.Regroupable.one,
        foldl_ones, Nat.add_comm]
      rfl

/-- The count of all values is the sum of the counts of the parts that have any. -/
theorem count_reduce_flatMap [Scalar.Regroupable V] {α : Type} (parts : List α)
    (values : α → List V) :
    count.reduce (parts.flatMap values) =
      sum.reduce (parts.filterMap fun part => count.reduce (values part)) := by
  rw [reduce_count_eq_sum, List.map_flatMap, sum_foldsBy.reduce_flatMap Scalar.Regroupable.add]
  simp only [reduce_count_eq_sum]

end SpaceReducer

namespace Grouping

variable {V : Type}

/-- What is gathered for a group at a step. -/
def gathered (groups : Grouping V) (labels : Labels) (boundary : Int) : List V :=
  (groups.gathered? labels boundary).getD []

/-- The finer groups that a group is made of. -/
def parts (fine : Grouping V) (names : List String) (keepBound : Bool) (labels : Labels) :
    List Labels :=
  fine.keys.filter (·.groupKey names keepBound = labels)

/-- Whether groups are made of finer groups, with all that these gather and nothing else. -/
structure Coarsens (names : List String) (keepBound : Bool) (coarse fine : Grouping V) :
    Prop where
  belongs : ∀ part ∈ fine.keys,
    ∃! labels, labels ∈ coarse.keys ∧ part ∈ fine.parts names keepBound labels
  made : ∀ labels ∈ coarse.keys, fine.parts names keepBound labels ≠ []
  present : ∀ labels boundary, (coarse.gathered? labels boundary).isSome ↔
    ∃ part ∈ fine.parts names keepBound labels, (fine.gathered? part boundary).isSome
  gathered : ∀ labels boundary, (coarse.gathered labels boundary).Perm
    ((fine.parts names keepBound labels).flatMap (fine.gathered · boundary))

/-- Whether the same groups have the same steps, with the same values in some order. -/
structure Rearranges (groups others : Grouping V) : Prop where
  keys : ∀ labels, labels ∈ groups.keys ↔ labels ∈ others.keys
  present : ∀ labels boundary,
    (groups.gathered? labels boundary).isSome ↔ (others.gathered? labels boundary).isSome
  gathered : ∀ labels boundary,
    (groups.gathered labels boundary).Perm (others.gathered labels boundary)

section OfCurves

variable (names : List String) (keepBound : Bool) (curves : List (Curve V)) (labels : Labels)

theorem gathered_ofCurves (boundary : Int) :
    (ofCurves names keepBound curves).gathered labels boundary =
      (members names keepBound curves labels).filterMap (·.points.get? boundary) := by
  rw [gathered, gathered?_ofCurves, getD_unlessNil]

theorem isSome_gathered?_ofCurves (boundary : Int) :
    ((ofCurves names keepBound curves).gathered? labels boundary).isSome ↔
      (ofCurves names keepBound curves).gathered labels boundary ≠ [] := by
  rw [gathered_ofCurves, gathered?_ofCurves, isSome_unlessNil]

end OfCurves

variable {names finer : List String}

theorem mem_parts_ofCurves (covers : ∀ name ∈ names, name ∈ finer) {keepBound : Bool}
    {curves : List (Curve V)} {curve : Curve V} (member : curve ∈ curves)
    (filled : curve.points.isEmpty = false) {labels : Labels} :
    curve.labels.groupKey finer keepBound ∈
        (ofCurves finer keepBound curves).parts names keepBound labels ↔
      curve.labels.groupKey names keepBound = labels := by
  have held : curve.labels.groupKey finer keepBound ∈ (ofCurves finer keepBound curves).keys :=
    mem_keys_ofCurves.mpr (members_ne_nil_iff.mpr ⟨curve, member, filled, rfl⟩)
  rw [parts, List.mem_filter, decide_eq_true_eq, Labels.groupKey_groupKey covers]
  exact and_iff_right held

/-- The members of a group are those of its finer groups. -/
theorem flatMap_members_perm (covers : ∀ name ∈ names, name ∈ finer) (keepBound : Bool)
    (curves : List (Curve V)) (labels : Labels) :
    (((ofCurves finer keepBound curves).parts names keepBound labels).flatMap
      (members finer keepBound curves)).Perm (members names keepBound curves labels) := by
  -- Both lists of members are cut from the curves with points, so that one sorting by the finer
  -- labels compares them.
  have members_eq (names : List String) (labels : Labels) :
      members names keepBound curves labels =
        (curves.filter fun curve => !curve.points.isEmpty).filter
          fun curve => curve.labels.groupKey names keepBound = labels := by
    rw [List.filter_filter, members]
    exact List.filter_congr fun curve _ => Bool.and_comm _ _
  have distinct := (keys_nodup (ofCurves finer keepBound curves)).filter
    fun part => part.groupKey names keepBound = labels
  have split := flatMap_filter_perm (fun curve : Curve V => curve.labels.groupKey finer keepBound)
    (curves.filter fun curve => !curve.points.isEmpty) distinct
  rw [funext (members_eq finer), members_eq names]
  refine split.trans (.of_eq (List.filter_congr fun curve held => ?_))
  rcases List.mem_filter.mp held with ⟨member, filled⟩
  rw [Bool.not_eq_true'] at filled
  exact decide_eq_decide.mpr (mem_parts_ofCurves covers member filled)

theorem coarsens (covers : ∀ name ∈ names, name ∈ finer) (keepBound : Bool)
    (curves : List (Curve V)) :
    Coarsens names keepBound (ofCurves names keepBound curves)
      (ofCurves finer keepBound curves) := by
  have perm (labels : Labels) (boundary : Int) :
      ((ofCurves names keepBound curves).gathered labels boundary).Perm
        (((ofCurves finer keepBound curves).parts names keepBound labels).flatMap
          ((ofCurves finer keepBound curves).gathered · boundary)) := by
    simp only [gathered_ofCurves]
    rw [← List.filterMap_flatMap]
    exact (flatMap_members_perm covers keepBound curves labels).symm.filterMap _
  refine ⟨?_, ?_, ?_, perm⟩
  · intro part held
    rcases members_ne_nil_iff.mp (mem_keys_ofCurves.mp held) with ⟨curve, member, filled, rfl⟩
    refine ⟨curve.labels.groupKey names keepBound, ⟨?_, ?_⟩, ?_⟩
    · exact mem_keys_ofCurves.mpr (members_ne_nil_iff.mpr ⟨curve, member, filled, rfl⟩)
    · exact (mem_parts_ofCurves covers member filled).mpr rfl
    · rintro labels ⟨-, belongs⟩
      exact ((mem_parts_ofCurves covers member filled).mp belongs).symm
  · intro labels held nothing
    rcases members_ne_nil_iff.mp (mem_keys_ofCurves.mp held) with ⟨curve, member, filled, rfl⟩
    exact List.ne_nil_of_mem ((mem_parts_ofCurves covers member filled).mpr rfl) nothing
  · intro labels boundary
    simp only [isSome_gathered?_ofCurves]
    rw [perm_ne_nil_iff (perm labels boundary), Ne, List.flatMap_eq_nil_iff]
    simp

theorem rearranges (names : List String) (keepBound : Bool) {curves others : List (Curve V)}
    (perm : others.Perm curves) :
    Rearranges (ofCurves names keepBound others) (ofCurves names keepBound curves) := by
  have gathered (labels : Labels) (boundary : Int) :
      ((ofCurves names keepBound others).gathered labels boundary).Perm
        ((ofCurves names keepBound curves).gathered labels boundary) := by
    rw [gathered_ofCurves, gathered_ofCurves]
    exact (perm.filter _).filterMap _
  refine ⟨?_, ?_, gathered⟩
  · intro labels
    rw [mem_keys_ofCurves, mem_keys_ofCurves]
    exact perm_ne_nil_iff (perm.filter _)
  · intro labels boundary
    rw [isSome_gathered?_ofCurves, isSome_gathered?_ofCurves]
    exact perm_ne_nil_iff (gathered labels boundary)

variable [Scalar V]

/-- What a group is reduced to at a step. -/
def reducedAt (groups : Grouping V) (reducer : SpaceReducer) (labels : Labels) (boundary : Int) :
    Option V :=
  reducer.reduce (groups.gathered labels boundary)

theorem reducedAt_eq (groups : Grouping V) (reducer : SpaceReducer) (labels : Labels)
    (boundary : Int) :
    groups.reducedAt reducer labels boundary =
      (groups.gathered? labels boundary).bind reducer.reduce := by
  rw [reducedAt, gathered]
  cases groups.gathered? labels boundary <;> rfl

/-- Reduced groups show at a step what is gathered there, reduced. -/
theorem shows_reduce_iff (groups : Grouping V) (reducer : SpaceReducer) (labels : Labels)
    (boundary : Int) (value : V) :
    Curve.Shows (groups.reduce reducer) labels boundary value ↔
      groups.reducedAt reducer labels boundary = some value := by
  rw [reducedAt_eq]
  constructor
  · rintro ⟨curve, member, rfl, found⟩
    rcases mem_reduce.mp member with ⟨steps, held, same⟩
    rwa [← same, get?_reduceGroup held] at found
  · intro found
    cases held : groups.get? labels with
    | none => simp [gathered?, held] at found
    | some steps =>
        exact ⟨reduceGroup reducer labels steps, mem_reduce.mpr ⟨steps, held, rfl⟩, rfl,
          (get?_reduceGroup held reducer boundary).trans found⟩

/-- Number of values that are gathered for a group at a step. -/
def number (groups : Grouping V) (labels : Labels) (boundary : Int) : Nat :=
  (groups.gathered labels boundary).length

theorem reducedAt_count (groups : Grouping V) (labels : Labels) (boundary : Int) :
    groups.reducedAt .count labels boundary =
      if groups.number labels boundary = 0 then none
      else some (Scalar.ofNat (groups.number labels boundary)) := by
  rw [reducedAt, number]
  cases groups.gathered labels boundary <;> rfl

/-- Whether reductions of groups are reductions of what their finer groups are reduced to. -/
def Composes (names : List String) (keepBound : Bool) (reducer outer : SpaceReducer)
    (coarse fine : Grouping V) : Prop :=
  ∀ labels boundary, coarse.reducedAt reducer labels boundary =
    outer.reduce ((fine.parts names keepBound labels).filterMap
      (fine.reducedAt reducer · boundary))

section Coarse

variable {keepBound : Bool} {coarse fine : Grouping V}
  (made : Coarsens names keepBound coarse fine)

include made

omit [Scalar V] in
theorem Coarsens.number (labels : Labels) (boundary : Int) :
    coarse.number labels boundary =
      ((fine.parts names keepBound labels).map (fine.number · boundary)).sum := by
  calc coarse.number labels boundary
    _ = ((fine.parts names keepBound labels).flatMap (fine.gathered · boundary)).length :=
      (made.gathered labels boundary).length_eq
    _ = ((fine.parts names keepBound labels).map (fine.number · boundary)).sum :=
      List.length_flatMap

theorem Coarsens.composes {reducer : SpaceReducer} {join : V → V → V} {start : V}
    (foldsBy : reducer.FoldsBy join start) (folds : Scalar.Folds join start) :
    Composes names keepBound reducer reducer coarse fine := by
  intro labels boundary
  calc coarse.reducedAt reducer labels boundary
    _ = reducer.reduce ((fine.parts names keepBound labels).flatMap
        (fine.gathered · boundary)) :=
      foldsBy.reduce_perm folds (made.gathered labels boundary)
    _ = _ := foldsBy.reduce_flatMap folds _ _

theorem Coarsens.composes_count [Scalar.Regroupable V] :
    Composes names keepBound .count .sum coarse fine := by
  intro labels boundary
  calc coarse.reducedAt .count labels boundary
    _ = SpaceReducer.count.reduce ((fine.parts names keepBound labels).flatMap
        (fine.gathered · boundary)) := by
      rw [reducedAt, SpaceReducer.reduce_count_eq_sum, SpaceReducer.reduce_count_eq_sum]
      exact SpaceReducer.sum_foldsBy.reduce_perm Scalar.Regroupable.add
        ((made.gathered labels boundary).map _)
    _ = _ := SpaceReducer.count_reduce_flatMap _ _

end Coarse

theorem regrouped [Std.TransCmp (Scalar.compareTotal : V → V → Ordering)]
    [Std.LawfulEqCmp (Scalar.compareTotal : V → V → Ordering)]
    (covers : ∀ name ∈ names, name ∈ finer) (keepBound : Bool) (curves : List (Curve V)) :
    Coarsens names keepBound (ofCurves names keepBound curves) (ofCurves finer keepBound curves) ∧
    (∀ others, others.Perm curves →
      Rearranges (ofCurves names keepBound others) (ofCurves names keepBound curves) ∧
      ∀ percent labels boundary,
        (ofCurves names keepBound others).reducedAt (.percentile percent) labels boundary =
          (ofCurves names keepBound curves).reducedAt (.percentile percent) labels boundary) ∧
    (∀ labels boundary, (ofCurves names keepBound curves).number labels boundary =
      (((ofCurves finer keepBound curves).parts names keepBound labels).map
        ((ofCurves finer keepBound curves).number · boundary)).sum) ∧
    (Scalar.Regroupable V →
      (∀ reducer ∈ [SpaceReducer.sum, .minimum, .maximum],
        Composes names keepBound reducer reducer (ofCurves names keepBound curves)
          (ofCurves finer keepBound curves)) ∧
      Composes names keepBound .count .sum (ofCurves names keepBound curves)
        (ofCurves finer keepBound curves)) ∧
    (∀ (groups : Grouping V) labels boundary, groups.reducedAt .count labels boundary =
      if groups.number labels boundary = 0 then none
      else some (Scalar.ofNat (groups.number labels boundary))) ∧
    ∀ (groups : Grouping V) reducer labels boundary value,
      Curve.Shows (groups.reduce reducer) labels boundary value ↔
        groups.reducedAt reducer labels boundary = some value := by
  have made := coarsens covers keepBound curves
  refine ⟨made, ?_, made.number, ?_, reducedAt_count, shows_reduce_iff⟩
  · intro others perm
    have moved := rearranges names keepBound perm
    exact ⟨moved, fun percent labels boundary =>
      SpaceReducer.reduce_percentile_perm percent (moved.gathered labels boundary)⟩
  · intro exact'
    refine ⟨?_, made.composes_count⟩
    intro reducer member
    rcases List.mem_cons.mp member with rfl | member
    · exact made.composes SpaceReducer.sum_foldsBy exact'.add
    rcases List.mem_cons.mp member with rfl | member
    · exact made.composes SpaceReducer.minimum_foldsBy exact'.least
    rcases List.mem_singleton.mp member with rfl
    exact made.composes SpaceReducer.maximum_foldsBy exact'.greatest

/-- Curves of two hosts with gaps, of which one has no zone, one a bound and one no points. -/
def loads : List (Curve Exact) :=
  let load (labels : List (String × String)) (points : List (Int × Rat)) : Curve Exact :=
    ⟨.ofList labels, .ofList (points.map fun (boundary, value) => (boundary, .finite value))⟩
  [load [("host", "a"), ("zone", "x")] [(0, 1), (60, 2)],
    load [("host", "a"), ("zone", "y")] [(0, 3)],
    load [("host", "a")] [(60, 5)],
    load [("host", "b"), ("le", "1")] [(0, 7)],
    load [("host", "a"), ("zone", "z")] []]

theorem regrouped_loads :
    (∀ name ∈ ["host"], name ∈ ["zone", "host", "le", "zone"]) ∧
    Coarsens ["host"] true (ofCurves ["host"] true loads)
      (ofCurves ["zone", "host", "le", "zone"] true loads) ∧
    loads.reverse.Perm loads ∧
    Rearranges (ofCurves ["host"] true loads.reverse) (ofCurves ["host"] true loads) ∧
    Composes ["host"] true .count .sum (ofCurves ["host"] true loads)
      (ofCurves ["zone", "host", "le", "zone"] true loads) ∧
    (ofCurves ["host"] true loads).gathered (.ofList [("host", "a")]) 60 =
      [.finite 2, .finite 5] ∧
    ((ofCurves ["zone", "host", "le", "zone"] true loads).parts ["host"] true
      (.ofList [("host", "a")])).length = 3 := by
  have covers : ∀ name ∈ ["host"], name ∈ ["zone", "host", "le", "zone"] := by decide
  have reversed : loads.reverse.Perm loads := List.reverse_perm _
  have whole := regrouped covers true loads
  exact ⟨covers, whole.1, reversed, (whole.2.1 _ reversed).1, (whole.2.2.2.1 inferInstance).2,
    by decide, by decide⟩

end Grouping

end SeriesQuery
