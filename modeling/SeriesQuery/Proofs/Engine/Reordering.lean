import SeriesQuery.Proofs.Bucket.RunningMaximum
import SeriesQuery.Proofs.Engine.Schedules
import SeriesQuery.Proofs.Regrouping
/-!
Values that come in another order, in an arithmetic whose sums do not depend on it. Main statement:
an answer is the same in whatever order its series are handed in, and however its groups are listed
only the order of groups that tie can differ.
-/
namespace SeriesQuery

open SortedMap

variable {V : Type} [Scalar V]

/-! Buckets -/

namespace Bucket

/-- One more count on top of those before it, if there are any. -/
def onto : Option V → V → Option V
  | none, count => some count
  | some sum, count => some (sum + count)

theorem foldl_onto (counts : List V) (sum : V) :
    counts.foldl onto (some sum) = some (counts.foldl (· + ·) sum) := by
  induction counts generalizing sum with
  | nil => rfl
  | cons count rest ih => exact ih _

theorem countAt?_eq_foldl (buckets : List (Bucket V)) (bound : V) :
    countAt? buckets bound =
      ((buckets.filter fun bucket => bucket.bound == bound).map (·.count)).foldl onto none := by
  rw [countAt?]
  split
  · rename_i nothing
    rw [nothing]
    rfl
  · rename_i first rest counted
    rw [counted]
    exact (foldl_onto rest first).symm

theorem countAt?_perm [Scalar.Regroupable V] {listed given : List (Bucket V)}
    (perm : listed.Perm given) (bound : V) : countAt? listed bound = countAt? given bound := by
  have folds := Scalar.Regroupable.add (V := V)
  rw [countAt?_eq_foldl, countAt?_eq_foldl]
  refine ((perm.filter _).map _).foldl_eq' (fun a _ b _ sum => ?_) none
  cases sum with
  | none => exact congrArg some (folds.comm a b)
  | some sum =>
      have exchanged : sum + a + b = sum + b + a := by
        calc sum + a + b = sum + (a + b) := folds.assoc _ _ _
          _ = sum + (b + a) := congrArg (sum + ·) (folds.comm a b)
          _ = sum + b + a := (folds.assoc _ _ _).symm
      exact congrArg some exchanged

/-- The bounds that are left when buckets are joined are settled by the bounds that were there. -/
theorem bounds_joinOnto {kept other : Bucket V} {rest others : List (Bucket V)}
    (first : kept.bound = other.bound) (same : rest.map (·.bound) = others.map (·.bound)) :
    (joinOnto kept rest).map (·.bound) = (joinOnto other others).map (·.bound) := by
  induction rest generalizing kept other others with
  | nil =>
      obtain rfl : others = [] := List.map_eq_nil_iff.mp same.symm
      rw [joinOnto, joinOnto, List.map_singleton, List.map_singleton, first]
  | cons next rest ih =>
      cases others with
      | nil => cases same
      | cons next' others =>
          have second : next.bound = next'.bound := (List.cons.inj same).1
          have same := (List.cons.inj same).2
          rw [joinOnto, joinOnto, first, second]
          split
          · exact ih rfl same
          · rw [List.map_cons, List.map_cons, first, ih second same]

theorem bounds_joinEqual {buckets others : List (Bucket V)}
    (same : buckets.map (·.bound) = others.map (·.bound)) :
    (joinEqual buckets).map (·.bound) = (joinEqual others).map (·.bound) := by
  cases buckets with
  | nil =>
      obtain rfl : others = [] := List.map_eq_nil_iff.mp same.symm
      rfl
  | cons kept rest =>
      cases others with
      | nil => cases same
      | cons other others =>
          rcases List.cons.inj same with ⟨first, same⟩
          exact bounds_joinOnto first same

theorem sorted_bounds (buckets : List (Bucket V)) : (sorted buckets).map (·.bound) =
    (buckets.map (·.bound)).mergeSort fun a b => Scalar.compareTotal a b != .gt :=
  List.map_mergeSort (f := fun bucket : Bucket V => bucket.bound)
    (r := fun a b : Bucket V => Scalar.compareTotal a.bound b.bound != .gt)
    (s := fun a b => Scalar.compareTotal a b != .gt) (l := buckets) fun _ _ _ _ => rfl

variable [Scalar.Ranked V]

/-- Joined buckets are told from their bounds and from what is counted at each bound. -/
theorem Joined.eq_filterMap {given joined : List (Bucket V)} (made : Joined given joined) :
    joined = (joined.map (·.bound)).filterMap fun bound =>
      (countAt? given bound).map (⟨bound, ·⟩) := by
  rw [List.filterMap_map]
  refine (List.filterMap_some.symm.trans ?_ : joined = _)
  apply List.filterMap_congr
  intro bucket member
  rw [Function.comp, made.count bucket member]
  rfl

theorem number_of_readBound? {text : String} {bound : V} (read : readBound? text = some bound) :
    Scalar.isNaN bound = false := by
  rw [readBound?] at read
  split at read
  · cases read
    exact Scalar.Ranked.number_infinity
  · have kept := (Option.filter_eq_some_iff.mp read).2
    rwa [Bool.not_eq_true'] at kept

/-- Buckets of curves have bounds that are numbers. -/
theorem bounded_at? (curves : List (Curve V)) (boundary : Int) :
    Bounded (curves.filterMap (at? boundary)) := by
  intro bucket member
  rcases List.mem_filterMap.mp member with ⟨curve, -, stands⟩
  rcases Option.bind_eq_some_iff.mp stands with ⟨bound, bounded, counted⟩
  rcases Option.bind_eq_some_iff.mp counted with ⟨count, -, same⟩
  rcases Option.bind_eq_some_iff.mp bounded with ⟨text, -, read⟩
  cases same
  exact number_of_readBound? read

variable [Scalar.Regroupable V] [Std.TransCmp (Scalar.compareTotal : V → V → Ordering)]
  [Std.LawfulEqCmp (Scalar.compareTotal : V → V → Ordering)]

/-- Buckets are joined alike in whatever order they come. -/
theorem ordered_of_perm {listed given : List (Bucket V)} (bounded : Bounded given)
    (perm : listed.Perm given) : ordered listed = ordered given := by
  have bounded' : Bounded listed := fun bucket member => bounded bucket (perm.subset member)
  have bounds : (ordered listed).map (·.bound) = (ordered given).map (·.bound) := by
    apply bounds_joinEqual
    change (sorted listed).map (·.bound) = (sorted given).map (·.bound)
    rw [sorted_bounds, sorted_bounds]
    exact mergeSort_eq_of_perm Scalar.compareTotal (perm.map _)
      fun _ _ _ _ tie => Std.LawfulEqCmp.eq_of_compare tie
  have counts (bound : V) : countAt? (sorted listed) bound = countAt? (sorted given) bound :=
    countAt?_perm ((List.mergeSort_perm _ _).trans
      (perm.trans (List.mergeSort_perm _ _).symm)) bound
  rw [(joined_ordered bounded').eq_filterMap, (joined_ordered bounded).eq_filterMap, bounds]
  simp only [counts]

theorem prepare_of_perm {listed given : List (Bucket V)} (bounded : Bounded given)
    (perm : listed.Perm given) : prepare listed = prepare given := by
  rw [prepare, ordered_of_perm bounded perm, prepare]

/-- What is read off the buckets of curves does not depend on the order of the curves. -/
theorem evaluateGroup_perm (labels : Labels) {listed given : List (Curve V)}
    (perm : listed.Perm given) (query : BucketQuery V) :
    (evaluateGroup labels listed query).1 = (evaluateGroup labels given query).1 := by
  refine congrArg (Curve.mk labels) (ext_get? fun boundary => ?_)
  change (evaluateGroup labels listed query).1.points.get? boundary =
    (evaluateGroup labels given query).1.points.get? boundary
  rw [get?_evaluateGroup, get?_evaluateGroup,
    prepare_of_perm (bounded_at? given boundary) (perm.filterMap _)]

end Bucket

/-! Groups -/

theorem SpaceReducer.reduce_perm [Scalar.Regroupable V]
    [Std.TransCmp (Scalar.compareTotal : V → V → Ordering)]
    [Std.LawfulEqCmp (Scalar.compareTotal : V → V → Ordering)] (reducer : SpaceReducer)
    {values others : List V} (perm : values.Perm others) :
    reducer.reduce values = reducer.reduce others := by
  have exact' := Scalar.Regroupable.add (V := V)
  cases reducer with
  | sum => exact sum_foldsBy.reduce_perm exact' perm
  | average =>
      have total : Scalar.sum values = Scalar.sum others := exact'.foldl_perm perm
      rw [reduce, reduce, perm.isEmpty_eq, perm.length_eq, total]
  | minimum => exact minimum_foldsBy.reduce_perm Scalar.Regroupable.least perm
  | maximum => exact maximum_foldsBy.reduce_perm Scalar.Regroupable.greatest perm
  | count => rw [reduce, reduce, perm.isEmpty_eq, perm.length_eq]
  | percentile percent => exact reduce_percentile_perm percent perm

namespace Grouping

/-- Groups may be reduced before they are put into the order of answers. -/
theorem reduce_eq_mergeSort (groups : Grouping V) (reducer : SpaceReducer)
    (listing : Labels → Nat) :
    groups.reduce reducer listing =
      (Schedule.byRank (fun curve => listing curve.labels)
        (groups.mapValues (reduceGroup reducer)).values).mergeSort
          fun a b => Labels.compareByBound V a.labels b.labels != .gt := by
  have reduced : (groups.mapValues (reduceGroup reducer)).values =
      groups.entries.map fun group => reduceGroup reducer group.1 group.2 := by
    simp [mapValues, SortedMap.values]
  rw [reduced, Schedule.byRank_map]
  exact List.map_mergeSort
    (f := fun group : Labels × GroupSteps V => reduceGroup reducer group.1 group.2)
    (r := fun a b : Labels × GroupSteps V => Labels.compareByBound V a.1 b.1 != .gt)
    (s := fun a b => Labels.compareByBound V a.labels b.labels != .gt)
    (l := groups.listed listing) fun _ _ _ _ => rfl

variable [Scalar.Regroupable V] [Std.TransCmp (Scalar.compareTotal : V → V → Ordering)]
  [Std.LawfulEqCmp (Scalar.compareTotal : V → V → Ordering)]

/-- Groups that hold the same values, in whatever order, are reduced alike. -/
theorem Rearranges.reduce_eq {groups others : Grouping V} (rearranges : Rearranges groups others)
    (reducer : SpaceReducer) (listing : Labels → Nat) :
    groups.reduce reducer listing = others.reduce reducer listing := by
  have drawn : groups.mapValues (reduceGroup reducer) =
      others.mapValues (reduceGroup reducer) := by
    apply ext_get?
    intro labels
    rw [get?_mapValues, get?_mapValues]
    have keys := rearranges.keys labels
    rw [mem_keys, mem_keys] at keys
    cases held : groups.get? labels with
    | none =>
        rw [held] at keys
        have absent : others.get? labels = none := by simpa using keys
        rw [absent]
    | some steps =>
        rw [held] at keys
        rcases Option.isSome_iff_exists.mp (keys.mp rfl) with ⟨steps', held'⟩
        rw [held']
        refine congrArg (fun points => some (Curve.mk labels points)) (ext_get? fun boundary => ?_)
        change (reduceGroup reducer labels steps).points.get? boundary =
          (reduceGroup reducer labels steps').points.get? boundary
        have values := reducer.reduce_perm (rearranges.gathered labels boundary)
        rw [get?_reduceGroup held, get?_reduceGroup held', ← reducedAt_eq, ← reducedAt_eq]
        exact values
  rw [reduce_eq_mergeSort, drawn, reduce_eq_mergeSort]

end Grouping

/-! Answers -/

namespace Plan

theorem collapse_eq_filter (curves : List (Curve V)) (query : BucketQuery V) :
    (collapse curves query).1 = (((byGroup curves).mapValues fun labels members =>
      (Bucket.evaluateGroup labels members query).1).values).filter
        fun curve => !curve.points.isEmpty := by
  simp only [collapse, mapValues, SortedMap.values, List.map_map]
  rfl

variable [Scalar.Regroupable V] [Std.TransCmp (Scalar.compareTotal : V → V → Ordering)]
  [Std.LawfulEqCmp (Scalar.compareTotal : V → V → Ordering)]

theorem answer_perm {plan : Plan V} {series others : List (Series V)} (perm : others.Perm series)
    (type : MetricType) (listing : Labels → Nat) :
    plan.answer type others listing = plan.answer type series listing := by
  have groups : plan.reduced type others listing = plan.reduced type series listing :=
    (Grouping.rearranges plan.groupBy (type = .histogram) (perm.map plan.curve)).reduce_eq _ _
  unfold answer
  rw [groups]

variable [Scalar.Ranked V]

/-- What is read off buckets does not depend on the order in which they are listed. -/
theorem collapse_perm {curves others : List (Curve V)} (perm : others.Perm curves)
    (query : BucketQuery V) : (collapse others query).1 = (collapse curves query).1 := by
  have read : ((byGroup others).mapValues fun labels members =>
        (Bucket.evaluateGroup labels members query).1) =
      (byGroup curves).mapValues fun labels members =>
        (Bucket.evaluateGroup labels members query).1 := by
    apply ext_get?
    intro labels
    rw [get?_mapValues, get?_mapValues, get?_byGroup, get?_byGroup]
    have members := perm.filter fun curve => curve.labels.erase boundLabel = labels
    have some' := perm_ne_nil_iff members
    revert members some'
    generalize others.filter (fun curve => curve.labels.erase boundLabel = labels) = listed,
      curves.filter (fun curve => curve.labels.erase boundLabel = labels) = given
    intro members some'
    cases listed with
    | nil =>
        obtain rfl : given = [] := members.symm.eq_nil
        rfl
    | cons first rest =>
        cases given with
        | nil => exact absurd members.eq_nil (List.cons_ne_nil _ _)
        | cons other others => exact congrArg some (Bucket.evaluateGroup_perm labels members query)
  rw [collapse_eq_filter, read, collapse_eq_filter]

/-- Two answers over the same series differ at most in the order of groups that tie. -/
theorem answer_unordered {plan : Plan V} {type : MetricType}
    (accepted : plan.checkType type = .ok ()) {series others : List (Series V)}
    (perm : others.Perm series) (listing later : Labels → Nat) :
    (plan.answer type others later).1.Perm (plan.answer type series listing).1 ∧
      (plan.ReadsBuckets ∨ (plan.groups type series).Apart ∨ listing = later →
        (plan.answer type others later).1 = (plan.answer type series listing).1) := by
  have listed : (plan.reduced type series later).Perm (plan.reduced type series listing) :=
    (((plan.groups type series).ordered_perm later).trans
      ((plan.groups type series).ordered_perm listing).symm).map _
  rw [answer_perm perm]
  rcases answer_cases accepted with ⟨query, -, -, read⟩ | ⟨plain, read⟩
  · have same : (plan.answer type series later).1 = (plan.answer type series listing).1 := by
      rw [read, read, collapse_perm listed]
    exact ⟨.of_eq same, fun _ => same⟩
  · refine ⟨by rwa [read, read], ?_⟩
    rintro (reads | apart | rfl)
    · exact absurd reads plain
    · rw [answer_relist apart]
    · rfl

end Plan

end SeriesQuery
