import Mathlib.Data.List.Nodup
import SeriesQuery.Proofs.Bucket.Prepared
import SeriesQuery.Proofs.Double.Words
/-!
Prepared buckets as a running maximum: at each bound the most that is counted up to it, where a
bound counts what all the buckets with it count together. They are inconsistent when one of these
sums is below that of a lower bound, and preparing them again changes nothing.
-/
namespace SeriesQuery.Bucket

open Scalar.Ranked

/-- In each bucket the most that is counted at its bound or below. -/
structure RunningMaximum {V : Type} [Scalar V] (given prepared : List (Bucket V)) : Prop where
  increasing : prepared.Pairwise fun a b => a.bound < b.bound
  bound : ∀ bucket ∈ prepared, ∃ other ∈ given, other.bound = bucket.bound
  kept : ∀ bucket ∈ given, ∃ other ∈ prepared, (other.bound == bucket.bound) = true
  attained : ∀ bucket ∈ prepared, ∃ other ∈ given, other.bound ≤ bucket.bound ∧
    countAt? (sorted given) other.bound = some bucket.count
  greatest : ∀ bucket ∈ prepared, ∀ other ∈ given, other.bound ≤ bucket.bound →
    ∃ count, countAt? (sorted given) other.bound = some count ∧ count ≤ bucket.count
  rising : prepared.Pairwise fun a b => a.count ≤ b.count

/-- Whether a bound counts less than a lower one. -/
def Falls {V : Type} [Scalar V] (given : List (Bucket V)) : Prop :=
  ∃ lower ∈ given, ∃ upper ∈ given, lower.bound < upper.bound ∧
    ∃ least most, countAt? (sorted given) upper.bound = some least ∧
      countAt? (sorted given) lower.bound = some most ∧ least < most

section Passes

variable {V : Type} [Scalar V] [Scalar.Ranked V]

theorem countAt?_congr (buckets : List (Bucket V)) {a b : V} (number : Scalar.isNaN a = false)
    (number' : Scalar.isNaN b = false) (same : place a = place b) :
    countAt? buckets a = countAt? buckets b := by
  have alike (bucket : Bucket V) : (bucket.bound == a) = (bucket.bound == b) := by
    rw [Bool.eq_iff_iff, beq_iff, beq_iff, same]
    simp only [number, number']
  simp only [countAt?, alike]

/-- In increasing buckets what holds along the list holds along the bounds. -/
theorem Increasing.pairwise_iff {buckets : List (Bucket V)} (increasing : Increasing buckets)
    {relation : Bucket V → Bucket V → Prop} :
    buckets.Pairwise relation ↔ ∀ lower ∈ buckets, ∀ upper ∈ buckets,
      place lower.bound < place upper.bound → relation lower upper := by
  constructor
  · intro related lower first upper second less
    obtain ⟨i, inside, rfl⟩ := List.getElem_of_mem first
    obtain ⟨j, inside', rfl⟩ := List.getElem_of_mem second
    rcases Nat.lt_trichotomy i j with earlier | rfl | later
    · exact List.pairwise_iff_getElem.mp related i j inside inside' earlier
    · exact absurd less (lt_irrefl _)
    · exact absurd less (List.pairwise_iff_getElem.mp increasing j i inside' inside later).not_gt
  · intro along
    exact increasing.imp_of_mem fun first second less => along _ first _ second less

/-- Buckets with bounds and sums that are numbers. -/
structure Defined (given : List (Bucket V)) : Prop where
  bounded : Bounded given
  counted : ∀ bucket ∈ given, ∀ count, countAt? (sorted given) bucket.bound = some count →
    Scalar.isNaN count = false

variable {given : List (Bucket V)}

section Ordered

variable [Std.TransCmp (Scalar.compareTotal : V → V → Ordering)]

omit [Scalar.Ranked V] [Std.TransCmp (Scalar.compareTotal : V → V → Ordering)] in
theorem ordered_eq : ordered given = joinEqual (sorted given) := rfl

theorem joined_ordered (bounded : Bounded given) : Joined (sorted given) (ordered given) :=
  joined_joinEqual (fun bucket member => bounded bucket (mem_sorted.mp member))
    (ascending_sorted bounded)

theorem exists_given (bounded : Bounded given) {bucket : Bucket V}
    (member : bucket ∈ ordered given) :
    ∃ other ∈ given, other.bound = bucket.bound ∧
      countAt? (sorted given) other.bound = some bucket.count := by
  rcases (joined_ordered bounded).bound bucket member with ⟨other, held, same⟩
  refine ⟨other, mem_sorted.mp held, same.symm, ?_⟩
  rw [← same]
  exact (joined_ordered bounded).count bucket member

theorem exists_ordered (bounded : Bounded given) {bucket : Bucket V} (member : bucket ∈ given) :
    ∃ other ∈ ordered given, place other.bound = place bucket.bound ∧
      countAt? (sorted given) bucket.bound = some other.count := by
  have joined := joined_ordered bounded
  rcases joined.kept bucket (mem_sorted.mpr member) with ⟨other, held, same⟩
  refine ⟨other, held, same, ?_⟩
  rcases exists_given bounded held with ⟨source, listed, bound, count⟩
  rw [← countAt?_congr _ (bounded source listed) (bounded bucket member)
    ((congrArg place bound).trans same)]
  exact count

theorem counted_ordered (defined : Defined given) : Counted (ordered given) := by
  intro bucket member
  rcases exists_given defined.bounded member with ⟨other, listed, -, count⟩
  exact defined.counted other listed _ count

omit [Scalar.Ranked V] [Std.TransCmp (Scalar.compareTotal : V → V → Ordering)] in
theorem bounded_of_bounds {buckets others : List (Bucket V)} (bounded : Bounded buckets)
    (same : ∀ bucket ∈ others, ∃ other ∈ buckets, other.bound = bucket.bound) :
    Bounded others := by
  intro bucket member
  rcases same bucket member with ⟨other, held, bound⟩
  exact bound ▸ bounded other held

theorem bounded_ordered (bounded : Bounded given) : Bounded (ordered given) :=
  bounded_of_bounds bounded fun _ member =>
    (exists_given bounded member).imp fun _ found => ⟨found.1, found.2.1⟩

theorem bounded_prepare (bounded : Bounded given) : Bounded (prepare given) :=
  bounded_of_bounds (bounded_ordered bounded) fun _ => mem_raise

theorem exists_given_prepare (bounded : Bounded given) {bucket : Bucket V}
    (member : bucket ∈ prepare given) : ∃ other ∈ given, other.bound = bucket.bound := by
  rcases mem_raise member with ⟨other, held, same⟩
  rcases exists_given bounded held with ⟨source, listed, bound, -⟩
  exact ⟨source, listed, bound.trans same⟩

theorem exists_prepare (bounded : Bounded given) {bucket : Bucket V} (member : bucket ∈ given) :
    ∃ other ∈ prepare given, (other.bound == bucket.bound) = true := by
  rcases exists_ordered bounded member with ⟨other, held, same, -⟩
  have bound : other.bound ∈ (prepare given).map (·.bound) := by
    rw [prepare, bounds_raise]
    exact List.mem_map_of_mem held
  rcases List.mem_map.mp bound with ⟨kept, inside, again⟩
  have numbers := And.intro (bounded_prepare bounded kept inside) (bounded bucket member)
  exact ⟨kept, inside, beq_iff.mpr ⟨numbers, by rw [again, same]⟩⟩

theorem increasing_prepare (bounded : Bounded given) : Increasing (prepare given) :=
  (joined_ordered bounded).increasing.raise _

theorem steady_prepare (defined : Defined given) :
    Steady (-Scalar.infinity) (prepare given) :=
  steady_raise number_neg_infinity (counted_ordered defined)

omit [Std.TransCmp (Scalar.compareTotal : V → V → Ordering)] in
theorem sorted_of_increasing {buckets : List (Bucket V)} (bounded : Bounded buckets)
    (increasing : Increasing buckets) : sorted buckets = buckets := by
  apply List.mergeSort_of_pairwise
  refine increasing.imp_of_mem fun {a b} first second less => ?_
  have below : a.bound < b.bound := lt_iff.mpr ⟨⟨bounded a first, bounded b second⟩, less⟩
  rw [compareTotal_of_lt below]
  rfl

omit [Std.TransCmp (Scalar.compareTotal : V → V → Ordering)] in
theorem ordered_of_increasing {buckets : List (Bucket V)} (bounded : Bounded buckets)
    (increasing : Increasing buckets) : ordered buckets = buckets := by
  rw [ordered_eq, sorted_of_increasing bounded increasing, joinEqual_of_increasing increasing]

omit [Std.TransCmp (Scalar.compareTotal : V → V → Ordering)] in
/-- Buckets that are in order already are left as they are. -/
theorem prepare_of_steady {buckets : List (Bucket V)} (bounded : Bounded buckets)
    (increasing : Increasing buckets) (steady : Steady (-Scalar.infinity) buckets) :
    prepare buckets = buckets := by
  rw [prepare, ordered_of_increasing bounded increasing, raise_of_steady steady]

theorem prepare_prepare (defined : Defined given) : prepare (prepare given) = prepare given :=
  prepare_of_steady (bounded_prepare defined.bounded) (increasing_prepare defined.bounded)
    (steady_prepare defined)

theorem areInconsistent_prepare (defined : Defined given) :
    areInconsistent (prepare given) = false := by
  have rising := steady_prepare defined
  rw [areInconsistent, ordered_of_increasing (bounded_prepare defined.bounded)
    (increasing_prepare defined.bounded)]
  refine (falls_eq_false_iff number_neg_infinity fun bucket member => ?_).mpr rising
  exact (raised_raise number_neg_infinity (counted_ordered defined)
    (joined_ordered defined.bounded).increasing member).number

theorem areInconsistent_iff (defined : Defined given) :
    areInconsistent given = true ↔ Falls given := by
  have joined := joined_ordered defined.bounded
  have counted := counted_ordered defined
  have along : areInconsistent given = false ↔ (ordered given).Pairwise
      fun a b => place a.count ≤ place b.count := by
    rw [areInconsistent, falls_eq_false_iff number_neg_infinity counted, Steady,
      List.pairwise_cons, List.pairwise_map]
    refine and_iff_right fun count member => neg_infinity_le ?_
    rcases List.mem_map.mp member with ⟨bucket, held, rfl⟩
    exact counted bucket held
  rw [joined.increasing.pairwise_iff] at along
  constructor
  · intro inconsistent
    have fails := mt along.mpr (by simp [inconsistent])
    push Not at fails
    rcases fails with ⟨lower, first, upper, second, less, falling⟩
    rcases exists_given defined.bounded first with ⟨low, listed, bound, count⟩
    rcases exists_given defined.bounded second with ⟨high, listed', bound', count'⟩
    refine ⟨low, listed, high, listed', ?_, upper.count, lower.count, count', count,
      lt_iff.mpr ⟨⟨counted upper second, counted lower first⟩, falling⟩⟩
    refine lt_iff.mpr ⟨⟨defined.bounded low listed, defined.bounded high listed'⟩, ?_⟩
    rw [bound, bound']
    exact less
  · rintro ⟨low, listed, high, listed', less, least, most, count', count, falling⟩
    rcases exists_ordered defined.bounded listed with ⟨lower, first, same, counts⟩
    rcases exists_ordered defined.bounded listed' with ⟨upper, second, same', counts'⟩
    obtain rfl : lower.count = most := Option.some.inj (counts.symm.trans count)
    obtain rfl : upper.count = least := Option.some.inj (counts'.symm.trans count')
    rw [← Bool.not_eq_false, along]
    intro rising
    have le := rising lower first upper second (by rw [same, same']; exact (lt_iff.mp less).2)
    exact le.not_gt (lt_iff.mp falling).2

theorem runningMaximum_prepare (defined : Defined given) :
    RunningMaximum given (prepare given) := by
  have joined := joined_ordered defined.bounded
  have counted := counted_ordered defined
  have bounded := bounded_prepare defined.bounded
  have raised {bucket : Bucket V} (member : bucket ∈ prepare given) :
      Raised (-Scalar.infinity) (ordered given) bucket :=
    raised_raise number_neg_infinity counted joined.increasing member
  constructor
  · exact (increasing_prepare defined.bounded).imp_of_mem fun first second less =>
      lt_iff.mpr ⟨⟨bounded _ first, bounded _ second⟩, less⟩
  · exact fun bucket => exists_given_prepare defined.bounded
  · exact fun bucket => exists_prepare defined.bounded
  · intro bucket member
    rcases (raised member).attained with ⟨-, other, held, less⟩ | ⟨other, held, le, same⟩
    · exact absurd (neg_infinity_le (counted other held)) less.not_ge
    · rcases exists_given defined.bounded held with ⟨source, listed, bound, count⟩
      have numbers := And.intro (defined.bounded source listed) (bounded bucket member)
      exact ⟨source, listed, le_iff.mpr ⟨numbers, bound ▸ le⟩, same ▸ count⟩
  · intro bucket member other listed le
    rcases exists_ordered defined.bounded listed with ⟨source, held, same, count⟩
    refine ⟨source.count, count, le_iff.mpr ⟨⟨counted source held, (raised member).number⟩, ?_⟩⟩
    exact (raised member).above source held (same ▸ (le_iff.mp le).2)
  · have rising := (List.pairwise_cons.mp (steady_prepare defined)).2
    refine (List.pairwise_map.mp rising).imp_of_mem fun first second le => ?_
    exact le_iff.mpr ⟨⟨(raised first).number, (raised second).number⟩, le⟩

omit [Scalar.Ranked V] in
theorem ordered_perm [Std.LawfulEqCmp (Scalar.compareTotal : V → V → Ordering)]
    {listed : List (Bucket V)} (perm : listed.Perm given)
    (apart : (given.map (·.bound)).Nodup) : ordered listed = ordered given := by
  have same : sorted listed = sorted given := by
    refine mergeSort_eq_of_perm (fun a b : Bucket V => Scalar.compareTotal a.bound b.bound) perm ?_
    intro a first b second tied
    exact List.inj_on_of_nodup_map apart first second (Std.LawfulEqCmp.eq_of_compare tied)
  rw [ordered_eq, same, ordered_eq]

end Ordered

end Passes

/-- Preparing buckets takes the running maximum of the sums at each bound. -/
theorem prepare_runningMaximum (given : List (Bucket Float))
    (bounded : ∀ bucket ∈ given, bucket.bound.isNaN = false)
    (counted : ∀ bucket ∈ given, ∀ count,
      countAt? (sorted given) bucket.bound = some count → count.isNaN = false) :
    RunningMaximum given (prepare given) ∧ (areInconsistent given = true ↔ Falls given) ∧
      prepare (prepare given) = prepare given ∧ areInconsistent (prepare given) = false ∧
      ((given.map (·.bound)).Nodup → ∀ listed : List (Bucket Float), listed.Perm given →
        prepare listed = prepare given ∧ areInconsistent listed = areInconsistent given) := by
  have defined : Defined given := ⟨bounded, counted⟩
  refine ⟨runningMaximum_prepare defined, areInconsistent_iff defined, prepare_prepare defined,
    areInconsistent_prepare defined, fun apart listed perm => ?_⟩
  rw [prepare, areInconsistent, ordered_perm perm apart]
  exact ⟨rfl, rfl⟩

/-- Counts under both zeros, and fewer under a bound above them. -/
def mixed : List (Bucket Float) := [⟨1, 3⟩, ⟨0, 4⟩, ⟨-0, 2⟩, ⟨Scalar.infinity, 9⟩]

theorem sorted_mixed : sorted mixed = [⟨-0, 2⟩, ⟨0, 4⟩, ⟨1, 3⟩, ⟨Scalar.infinity, 9⟩] := by
  simp +decide [sorted, mixed, List.mergeSort, List.MergeSort.Internal.splitInTwo]

theorem counted_mixed : ∀ bucket ∈ mixed, ∀ count,
    countAt? (sorted mixed) bucket.bound = some count → count.isNaN = false := by
  have counted : ∀ bucket ∈ mixed,
      (countAt? (sorted mixed) bucket.bound).any (·.isNaN) = false := by
    rw [sorted_mixed]
    decide
  intro bucket member count same
  have number := counted bucket member
  rwa [same] at number

theorem areInconsistent_mixed : areInconsistent mixed = true := by
  rw [areInconsistent, ordered_eq, sorted_mixed]
  decide

/-- The zeros count six together, which is more than is counted up to one. -/
theorem runningMaximum_mixed :
    (∀ bucket ∈ mixed, bucket.bound.isNaN = false) ∧
      (∀ bucket ∈ mixed, ∀ count,
        countAt? (sorted mixed) bucket.bound = some count → count.isNaN = false) ∧
      RunningMaximum mixed (prepare mixed) ∧ Falls mixed ∧
      prepare (prepare mixed) = prepare mixed ∧ areInconsistent (prepare mixed) = false ∧
      ∀ listed : List (Bucket Float), listed.Perm mixed →
        prepare listed = prepare mixed ∧ areInconsistent listed = areInconsistent mixed := by
  have bounded : ∀ bucket ∈ mixed, bucket.bound.isNaN = false := by decide
  have apart : (mixed.map (·.bound)).Nodup := by
    have keys : (mixed.map fun bucket => orderKey bucket.bound).Nodup := by decide
    exact List.Nodup.of_map orderKey (by rwa [List.map_map])
  have maximum := prepare_runningMaximum mixed bounded counted_mixed
  exact ⟨bounded, counted_mixed, maximum.1, maximum.2.1.mp areInconsistent_mixed, maximum.2.2.1,
    maximum.2.2.2.1, maximum.2.2.2.2 apart⟩

example : ((prepare mixed).map (·.count) == [6, 6, 9]) = true := by
  rw [prepare, ordered_eq, sorted_mixed]
  decide

end SeriesQuery.Bucket
