import SeriesQuery.Increments
import SeriesQuery.Proofs.SortedMap
/-!
The increments of a series, sample by sample: each sample is set against the latest one before it,
found by its instant and not by its place in the list.
-/
namespace SeriesQuery.Series

variable {V : Type}

/-- The value of the latest sample before an instant. -/
def valueBefore? (samples : List (Int × V)) (instant : Int) : Option V :=
  (samples.filter fun sample => sample.1 < instant).getLast?.map (·.2)

/-- Samples with the samples before them: the head of the list has none. -/
theorem valueBefore?_head {first : Int × V} {rest : List (Int × V)}
    (sorted : (first :: rest).Pairwise fun a b => compare a.1 b.1 = .lt) :
    valueBefore? (first :: rest) first.1 = none := by
  have nothing : (first :: rest).filter (fun sample => sample.1 < first.1) = [] := by
    apply List.filter_eq_nil_iff.mpr
    intro sample member
    rcases List.mem_cons.mp member with rfl | later
    · simp
    · have := Int.compare_eq_lt.mp ((List.pairwise_cons.mp sorted).1 sample later)
      simp
      omega
  simp [valueBefore?, nothing]

theorem valueBefore?_next {earlier rest : List (Int × V)} {before after : Int × V}
    (sorted : (earlier ++ before :: after :: rest).Pairwise fun a b => compare a.1 b.1 = .lt) :
    valueBefore? (earlier ++ before :: after :: rest) after.1 = some before.2 := by
  rcases List.pairwise_append.mp sorted with ⟨-, tail, across⟩
  rcases List.pairwise_cons.mp tail with ⟨aboveBefore, tail⟩
  have aboveAfter := (List.pairwise_cons.mp tail).1
  have kept : earlier.filter (fun sample => sample.1 < after.1) = earlier := by
    apply List.filter_eq_self.mpr
    intro sample member
    have := Int.compare_eq_lt.mp (across sample member after (by simp))
    simpa
  have dropped : rest.filter (fun sample => sample.1 < after.1) = [] := by
    apply List.filter_eq_nil_iff.mpr
    intro sample member
    have := Int.compare_eq_lt.mp (aboveAfter sample member)
    simp
    omega
  have first := Int.compare_eq_lt.mp (aboveBefore after List.mem_cons_self)
  rw [valueBefore?]
  rw [List.filter_append, List.filter_cons, List.filter_cons, kept, dropped]
  simp [first]

theorem zipWith_before {earlier rest : List (Int × V)} {before : Int × V}
    (sorted : (earlier ++ before :: rest).Pairwise fun a b => compare a.1 b.1 = .lt) :
    (before :: rest).zipWith (fun before after => (before.2, after)) rest =
      rest.filterMap fun sample =>
        (valueBefore? (earlier ++ before :: rest) sample.1).map (·, sample) := by
  induction rest generalizing earlier before with
  | nil => rfl
  | cons after rest ih =>
      have shifted :
          earlier ++ before :: after :: rest = (earlier ++ [before]) ++ after :: rest := by
        simp
      rw [List.filterMap_cons, valueBefore?_next sorted, List.zipWith_cons_cons, shifted]
      rw [shifted] at sorted
      simp only [Option.map_some]
      rw [ih sorted]

theorem zipWith_tail {samples : List (Int × V)}
    (sorted : samples.Pairwise fun a b => compare a.1 b.1 = .lt) :
    samples.zipWith (fun before after => (before.2, after)) samples.tail =
      samples.filterMap fun sample => (valueBefore? samples sample.1).map (·, sample) := by
  cases samples with
  | nil => rfl
  | cons first rest =>
      rw [List.filterMap_cons, valueBefore?_head sorted]
      simpa using @zipWith_before V [] rest first sorted

variable [Scalar V]

/--
What one of the given samples counts for: its value, or for running totals what they have grown by
since the sample before. A total below the one before has started again from zero.
-/
def contribution? (type : MetricType) (temporality : Temporality) (samples : List (Int × V))
    (sample : Int × V) : Option (Int × V) :=
  match type, temporality with
  | .gauge, _ => some sample
  | _, .delta => some sample
  | _, _ => (valueBefore? samples sample.1).map fun before =>
      (sample.1, if before ≤ sample.2 then sample.2 - before else sample.2)

theorem contribution?_of_isRunningTotal {series : Series V} (total : series.isRunningTotal = true)
    (samples : List (Int × V)) (sample : Int × V) :
    contribution? series.type series.temporality samples sample =
      (valueBefore? samples sample.1).map fun before =>
        (sample.1, increment before sample.2) := by
  have same (before after : V) :
      increment before after = if before ≤ after then after - before else after := by
    by_cases grown : before ≤ after
    · simp [increment, hasFallen, grown]
    · simp [increment, hasFallen, grown]
  rcases series with ⟨key, type, temporality, _⟩
  cases type <;> cases temporality <;>
    simp_all [isRunningTotal, MetricType.isMonotonic, contribution?]

theorem contribution?_of_not_isRunningTotal {series : Series V}
    (plain : series.isRunningTotal = false) (samples : List (Int × V)) (sample : Int × V) :
    contribution? series.type series.temporality samples sample = some sample := by
  rcases series with ⟨key, type, temporality, _⟩
  cases type <;> cases temporality <;>
    simp_all [isRunningTotal, MetricType.isMonotonic, contribution?]

theorem instant_of_contribution? {type : MetricType} {temporality : Temporality}
    {samples : List (Int × V)} {sample point : Int × V}
    (counted : contribution? type temporality samples sample = some point) :
    point.1 = sample.1 := by
  unfold contribution? at counted
  split at counted
  · cases counted
    rfl
  · cases counted
    rfl
  · rcases Option.map_eq_some_iff.mp counted with ⟨before, -, rfl⟩
    rfl

/-- The points from `start` on are the contributions of the samples from `start` on. -/
theorem increments_points (series : Series V) (start : Int) :
    (series.increments start).points =
      (series.samples.entries.filter fun sample => start ≤ sample.1).filterMap
        (contribution? series.type series.temporality series.samples.entries) := by
  rw [increments]
  split
  · rename_i total
    simp only [funext (contribution?_of_isRunningTotal total series.samples.entries)]
    simp only [successions, zipWith_tail series.samples.sorted, List.filter_filterMap,
      List.map_filterMap, List.filterMap_filter]
    congr 1
    funext sample
    by_cases late : start ≤ sample.1
    · cases valueBefore? series.samples.entries sample.1 <;> simp [late, Option.filter]
    · cases valueBefore? series.samples.entries sample.1 <;> simp [late, Option.filter]
  · rename_i plain
    have same := funext (contribution?_of_not_isRunningTotal (by simpa using plain)
      series.samples.entries)
    rw [same, List.filterMap_some]

theorem sorted_increments (series : Series V) (start : Int) :
    (series.increments start).points.Pairwise fun a b => compare a.1 b.1 = .lt := by
  rw [increments_points]
  refine List.pairwise_filterMap.mpr ((series.samples.sorted.filter _).imp ?_)
  intro a b less first counted second counted'
  rw [instant_of_contribution? counted, instant_of_contribution? counted']
  exact less

end SeriesQuery.Series
