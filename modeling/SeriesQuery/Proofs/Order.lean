import SeriesQuery.Proofs.Grouping
/-!
The order of answers. Groups stand in the order of their labels without the bound, then of their
bounds, and where even these agree as they are listed. That order is strict, so what an answer shows
at a step is settled by which values it has there and by the listing.
-/
namespace SeriesQuery

open SortedMap

/-- The order of doubles is the order of the integers they are keyed by. -/
instance : Std.TransCmp (Scalar.compareTotal : Float → Float → Ordering) :=
  inferInstanceAs (Std.TransCmp (compareOn orderKey))

theorem orderKey_injective {a b : Float} (same : orderKey a = orderKey b) : a = b := by
  have words : a.toBits.toNat = b.toBits.toNat := by
    unfold orderKey at same
    dsimp only at same
    split at same <;> split at same <;> omega
  cases a with
  | ofModel a =>
      cases b with
      | ofModel b =>
          cases a
          cases b
          cases UInt64.toNat_inj.mp words
          rfl

/-- Doubles that compare as equal have the same bits. -/
instance : Std.LawfulEqCmp (Scalar.compareTotal : Float → Float → Ordering) where
  compare_self := Std.ReflCmp.compare_self
  eq_of_compare equal := orderKey_injective (Std.LawfulEqOrd.eq_of_compare equal)

namespace Labels

variable {V : Type} [Scalar V]

/-- By the bound as a number, or by its text where there is no such number. -/
def compareBounds (V : Type) [Scalar V] (a b : Labels) : Ordering :=
  match (a.bound? : Option V), (b.bound? : Option V) with
  | some x, some y => Scalar.compareTotal x y
  | some _, none => .gt
  | none, some _ => .lt
  | none, none => compare (a.get? boundLabel) (b.get? boundLabel)

instance [Std.TransCmp (Scalar.compareTotal : V → V → Ordering)] :
    Std.TransCmp (compareBounds V) where
  eq_swap {a b} := by
    unfold compareBounds
    cases (a.bound? : Option V) with
    | none =>
        cases (b.bound? : Option V) with
        | none => exact Std.OrientedOrd.eq_swap
        | some y => rfl
    | some x =>
        cases (b.bound? : Option V) with
        | none => rfl
        | some y => exact @Std.OrientedCmp.eq_swap V Scalar.compareTotal _ x y
  isLE_trans {a b c} first second := by
    unfold compareBounds at first second ⊢
    generalize (a.bound? : Option V) = x at *
    generalize (b.bound? : Option V) = y at *
    generalize (c.bound? : Option V) = z at *
    cases x with
    | none =>
        cases z with
        | some z => rfl
        | none =>
            cases y with
            | none => exact Std.TransOrd.isLE_trans first second
            | some y => cases second
    | some x =>
        cases y with
        | none => cases first
        | some y =>
            cases z with
            | none => cases second
            | some z => exact @Std.TransCmp.isLE_trans V Scalar.compareTotal _ x y z first second

instance [Std.TransCmp (Scalar.compareTotal : V → V → Ordering)] :
    Std.TransCmp (compareByBound V) :=
  inferInstanceAs (Std.TransCmp
    (compareLex (compareOn fun labels : Labels => labels.erase boundLabel) (compareBounds V)))

variable {listing : Labels → Nat}

/-- Labels as they are listed. -/
def compareListed (listing : Labels → Nat) : Labels → Labels → Ordering :=
  compareLex (compareOn listing) compare

/-- Whether labels come before others in answers. -/
def Precedes (V : Type) [Scalar V] (listing : Labels → Nat) (a b : Labels) : Prop :=
  compareLex (compareByBound V) (compareListed listing) a b = .lt

theorem Precedes.ne_gt {a b : Labels} (forward : Precedes V listing a b) :
    compareByBound V a b ≠ .gt := by
  intro greater
  rw [Precedes, compareLex, greater] at forward
  cases forward

instance : Std.TransCmp (compareListed listing) :=
  inferInstanceAs (Std.TransCmp (compareLex (compareOn listing) compare))

theorem Precedes.asymm [Std.TransCmp (Scalar.compareTotal : V → V → Ordering)] {a b : Labels}
    (forward : Precedes V listing a b) : ¬ Precedes V listing b a := by
  have swap : compareLex (compareByBound V) (compareListed listing) b a =
      (compareLex (compareByBound V) (compareListed listing) a b).swap := Std.OrientedCmp.eq_swap
  intro backward
  unfold Precedes at forward backward
  rw [forward, backward] at swap
  cases swap

end Labels

namespace Curve

variable {V : Type}

/-- Whether a value is shown for labels at a boundary. -/
def Shows (curves : List (Curve V)) (labels : Labels) (boundary : Int) (value : V) : Prop :=
  ∃ curve ∈ curves, curve.labels = labels ∧ curve.points.get? boundary = some value

/-- The values at a boundary with their labels. -/
def column (curves : List (Curve V)) (boundary : Int) : List (Labels × V) :=
  curves.filterMap fun curve => (curve.points.get? boundary).map (curve.labels, ·)

theorem mem_column {curves : List (Curve V)} {boundary : Int} {entry : Labels × V} :
    entry ∈ column curves boundary ↔ Shows curves entry.1 boundary entry.2 := by
  rcases entry with ⟨labels, value⟩
  simp only [column, Shows, List.mem_filterMap, Option.map_eq_some_iff, Prod.mk.injEq]
  constructor
  · intro parts
    rcases parts with ⟨curve, member, _, found, rfl, rfl⟩
    exact ⟨curve, member, rfl, found⟩
  · intro parts
    rcases parts with ⟨curve, member, rfl, found⟩
    exact ⟨curve, member, value, found, rfl, rfl⟩

variable [Scalar V] {listing : Labels → Nat}

theorem ordered_column {curves : List (Curve V)}
    (ordered : (curves.map (·.labels)).Pairwise (Labels.Precedes V listing)) (boundary : Int) :
    (column curves boundary).Pairwise fun a b => Labels.Precedes V listing a.1 b.1 := by
  refine List.pairwise_filterMap.mpr ((List.pairwise_map.mp ordered).imp ?_)
  intro a b before first foundFirst second foundSecond
  rcases Option.map_eq_some_iff.mp foundFirst with ⟨_, -, rfl⟩
  rcases Option.map_eq_some_iff.mp foundSecond with ⟨_, -, rfl⟩
  exact before

/-- What is shown at a boundary settles the values there and their order. -/
theorem column_eq [Std.TransCmp (Scalar.compareTotal : V → V → Ordering)]
    {curves others : List (Curve V)} {boundary : Int}
    (ordered : (curves.map (·.labels)).Pairwise (Labels.Precedes V listing))
    (ordered' : (others.map (·.labels)).Pairwise (Labels.Precedes V listing))
    (same : ∀ labels value, Shows curves labels boundary value ↔
      Shows others labels boundary value) : column curves boundary = column others boundary := by
  have members (entry : Labels × V) :
      entry ∈ column curves boundary ↔ entry ∈ column others boundary := by
    rw [mem_column, mem_column]
    exact same entry.1 entry.2
  have distinct {list : List (Labels × V)}
      (sorted : list.Pairwise fun a b => Labels.Precedes V listing a.1 b.1) : list.Nodup := by
    refine sorted.imp ?_
    rintro a b before rfl
    exact before.asymm before
  refine List.Perm.eq_of_pairwise ?_ (ordered_column ordered boundary)
    (ordered_column ordered' boundary) ((List.perm_ext_iff_of_nodup
      (distinct (ordered_column ordered boundary))
      (distinct (ordered_column ordered' boundary))).mpr members)
  intro a b _ _ forward backward
  exact absurd backward forward.asymm

end Curve

namespace Grouping

variable {V : Type} [Scalar V] [Std.TransCmp (Scalar.compareTotal : V → V → Ordering)]

instance : Std.TransCmp fun a b : Labels × GroupSteps V => Labels.compareByBound V a.1 b.1 where
  eq_swap := Std.OrientedCmp.eq_swap
  isLE_trans := Std.TransCmp.isLE_trans

/-- Reduced groups stand in the order of answers. -/
theorem ordered_reduce (groups : Grouping V) (reducer : SpaceReducer) (listing : Labels → Nat) :
    ((groups.reduce reducer listing).map (·.labels)).Pairwise (Labels.Precedes V listing) := by
  have listed := pairwise_mergeSort_lex
    (compareOn fun group : Labels × GroupSteps V => listing group.1) groups.sorted
  rw [labels_reduce]
  exact List.pairwise_map.mpr (pairwise_mergeSort_lex
    (fun a b : Labels × GroupSteps V => Labels.compareByBound V a.1 b.1) listed)

end Grouping

end SeriesQuery
