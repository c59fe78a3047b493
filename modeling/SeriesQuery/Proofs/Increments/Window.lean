import SeriesQuery.Proofs.Double.Arithmetic
import SeriesQuery.Proofs.Increments
/-!
The increments of a series do not depend on the window they are asked for: a later start only leaves
points out. A running total has one point for each sample but its first, set against the sample
before; it has restarted wherever it is below that sample.
-/
namespace SeriesQuery.Series

section Window

variable {V : Type}

theorem exists_mem_of_valueBefore? {samples : List (Int × V)} {instant : Int} {before : V}
    (found : valueBefore? samples instant = some before) :
    ∃ sample ∈ samples, sample.1 < instant ∧ sample.2 = before := by
  rcases Option.map_eq_some_iff.mp found with ⟨sample, last, same⟩
  rcases List.mem_filter.mp (List.mem_of_getLast? last) with ⟨member, earlier⟩
  exact ⟨sample, member, of_decide_eq_true earlier, same⟩

theorem map_zipWith_tail (samples : List (Int × V)) :
    (samples.zipWith (fun before after => (before.2, after)) samples.tail).map (·.2) =
      samples.tail := by
  cases samples with
  | nil => rfl
  | cons first rest =>
      rw [List.tail_cons]
      induction rest generalizing first with
      | nil => rfl
      | cons next rest ih => rw [List.zipWith_cons_cons, List.map_cons, ih]

variable (series : Series V)

theorem isRunningTotal_iff : series.isRunningTotal = true ↔ series.type.isMonotonic = true ∧
    (series.temporality = .cumulative ∨ series.temporality = .unspecified) := by
  rw [isRunningTotal]
  cases series.type.isMonotonic <;> cases series.temporality <;> decide

theorem successions_map (start : Int) : (series.successions start).map (·.2) =
    series.samples.entries.tail.filter fun sample => start ≤ sample.1 := by
  rw [← map_zipWith_tail series.samples.entries, List.filter_map]
  rfl

variable [Scalar V]

/-- A later start leaves out the points before it. -/
theorem increments_later {start later : Int} (le : start ≤ later) :
    (series.increments later).points =
      (series.increments start).points.filter fun point => later ≤ point.1 := by
  have window : (series.samples.entries.filter fun sample => later ≤ sample.1) =
      (series.samples.entries.filter fun sample => start ≤ sample.1).filter
        fun sample => later ≤ sample.1 := by
    rw [List.filter_filter]
    refine List.filter_congr fun sample _ => ?_
    rw [← Bool.decide_and, decide_eq_decide]
    exact ⟨fun after => ⟨after, le.trans after⟩, And.left⟩
  rw [increments_points, increments_points, window, List.filterMap_filter, List.filter_filterMap]
  congr 1
  funext sample
  cases counted : contribution? series.type series.temporality series.samples.entries sample with
  | none => simp
  | some point =>
      have same := instant_of_contribution? counted
      simp [Option.filter, same]

/-- One point for each sample from the start on, but for the first sample of all. -/
theorem instants_increments (total : series.isRunningTotal = true) (start : Int) :
    (series.increments start).points.map (·.1) =
      (series.samples.entries.tail.filter fun sample => start ≤ sample.1).map (·.1) := by
  rw [← successions_map, List.map_map, increments, if_pos total, List.map_map]
  rfl

theorem exists_sample (total : series.isRunningTotal = true) {start : Int} {point : Int × V}
    (member : point ∈ (series.increments start).points) :
    ∃ before value, valueBefore? series.samples.entries point.1 = some before ∧
      (point.1, value) ∈ series.samples.entries ∧ point.2 = increment before value := by
  rw [increments_points] at member
  rcases List.mem_filterMap.mp member with ⟨sample, held, counted⟩
  rw [contribution?_of_isRunningTotal total] at counted
  rcases Option.map_eq_some_iff.mp counted with ⟨before, found, rfl⟩
  exact ⟨before, sample.2, found, (List.mem_filter.mp held).1, rfl⟩

/-- A running total restarts at the samples that are below the ones before them. -/
theorem restarts_increments [Scalar.Ranked V] (total : series.isRunningTotal = true) (start : Int)
    (numbers : ∀ sample ∈ series.samples.entries, Scalar.isNaN sample.2 = false) :
    (series.increments start).restarts =
      (series.samples.entries.filter fun sample => start ≤ sample.1).countP fun sample =>
        (valueBefore? series.samples.entries sample.1).any fun before =>
          decide (sample.2 < before) := by
  rw [increments, if_pos total]
  simp only [successions, zipWith_tail series.samples.sorted, List.countP_filter,
    List.countP_filterMap]
  refine List.countP_congr fun sample member => ?_
  cases found : valueBefore? series.samples.entries sample.1 with
  | none => simp
  | some before =>
      rcases exists_mem_of_valueBefore? found with ⟨earlier, member', -, rfl⟩
      have fallen : hasFallen earlier.2 sample.2 = decide (sample.2 < earlier.2) := by
        rw [hasFallen, ← decide_not, decide_eq_decide]
        refine ⟨Scalar.Ranked.lt_of_not_le (numbers _ member) (numbers _ member'), ?_⟩
        intro less le
        exact (Scalar.Ranked.le_iff.mp le).2.not_gt (Scalar.Ranked.lt_iff.mp less).2
      simp [fallen, and_comm]

end Window

/-- The increments of a running total, each against the sample before. -/
structure Differences (series : Series Float) (start : Int) : Prop where
  instants : (series.increments start).points.map (·.1) =
    (series.samples.entries.tail.filter fun sample => start ≤ sample.1).map (·.1)
  value : ∀ point ∈ (series.increments start).points, ∃ before value,
    valueBefore? series.samples.entries point.1 = some before ∧
      (point.1, value) ∈ series.samples.entries ∧
      point.2 = if before ≤ value then value - before else value
  restarts : (∀ sample ∈ series.samples.entries, sample.2.isNaN = false) →
    (series.increments start).restarts =
      (series.samples.entries.filter fun sample => start ≤ sample.1).countP fun sample =>
        (valueBefore? series.samples.entries sample.1).any fun before =>
          decide (sample.2 < before)
  unanchored : (series.increments start).unanchored = true ↔
    ∃ first, series.samples.entries.head? = some first ∧ start ≤ first.1
  nonneg : (∀ sample ∈ series.samples.entries, sample.2.isFinite = true ∧ 0 ≤ sample.2) →
    ∀ point ∈ (series.increments start).points, 0 ≤ point.2

theorem differences {series : Series Float} (total : series.isRunningTotal = true) (start : Int) :
    Differences series start := by
  have value {point : Int × Float} (member : point ∈ (series.increments start).points) :
      ∃ before value, valueBefore? series.samples.entries point.1 = some before ∧
        (point.1, value) ∈ series.samples.entries ∧
        point.2 = if before ≤ value then value - before else value := by
    rcases exists_sample series total member with ⟨before, value, found, held, same⟩
    refine ⟨before, value, found, held, same.trans ?_⟩
    by_cases grown : before ≤ value <;> simp [increment, hasFallen, grown]
  constructor
  · exact instants_increments series total start
  · exact fun point => value
  · exact restarts_increments series total start
  · rw [increments, if_pos total]
    simp only [Option.any_eq_true, decide_eq_true_eq]
  · intro finite point member
    rcases value member with ⟨before, value, found, held, same⟩
    rcases exists_mem_of_valueBefore? found with ⟨earlier, held', -, rfl⟩
    rw [same]
    split
    · rename_i grown
      exact Double.sub_nonneg (finite _ held').1 (finite _ held).1 grown
    · exact (finite _ held).2

/-- The increments of a series are those of its whole run, cut off at the start. -/
theorem increments_window (series : Series Float) :
    (∀ start later : Int, start ≤ later → (series.increments later).points =
        (series.increments start).points.filter fun point => later ≤ point.1) ∧
      (series.type.isMonotonic = true →
        series.temporality = .cumulative ∨ series.temporality = .unspecified →
          ∀ start, Differences series start) ∧
      (series.type.isMonotonic = false ∨ series.temporality = .delta →
        ∀ start, series.increments start =
          ⟨series.samples.entries.filter fun sample => start ≤ sample.1, 0, false⟩) := by
  refine ⟨fun start later => increments_later series, fun monotonic running start => ?_,
    fun plain start => ?_⟩
  · exact differences ((isRunningTotal_iff series).mpr ⟨monotonic, running⟩) start
  · rw [increments, if_neg]
    rw [isRunningTotal_iff]
    rintro ⟨monotonic, running⟩
    rcases plain with still | delta
    · rw [monotonic] at still
      cases still
    · rw [delta] at running
      rcases running with same | same <;> cases same

/-- A counter that restarts between its second sample and its third. -/
def restarted : Series Float where
  key := ⟨"requests", ∅⟩
  type := .sum
  temporality := .cumulative
  samples := ⟨[(0, 5), (10, 7), (20, 3), (30, 4)], by decide⟩

theorem increments_window_restarted :
    (restarted.increments 20).points =
        (restarted.increments 10).points.filter (fun point => 20 ≤ point.1) ∧
      restarted.type.isMonotonic = true ∧ restarted.temporality = .cumulative ∧
      (∀ sample ∈ restarted.samples.entries, sample.2.isFinite = true ∧ 0 ≤ sample.2) ∧
      Differences restarted 10 ∧ (restarted.increments 10).restarts = 1 ∧
      (∀ point ∈ (restarted.increments 10).points, 0 ≤ point.2) ∧
      (Series.increments { restarted with type := .gauge } 10).points =
        restarted.samples.entries.tail := by
  have finite : ∀ sample ∈ restarted.samples.entries, sample.2.isFinite = true ∧ 0 ≤ sample.2 := by
    decide
  have differences := (increments_window restarted).2.1 rfl (.inl rfl) 10
  refine ⟨(increments_window restarted).1 10 20 (by decide), rfl, rfl, finite, differences, ?_,
    differences.nonneg finite, ?_⟩
  · rw [differences.restarts (by decide)]
    decide
  · rw [(increments_window { restarted with type := .gauge }).2.2 (.inl rfl) 10]
    rfl

end SeriesQuery.Series
