import SeriesQuery.Proofs.Exact
import SeriesQuery.Proofs.Increments
import SeriesQuery.Proofs.Series
/-!
Running totals of given amounts. Main statement: where adding does not round, the increments of
running totals are the amounts they add up, in every window of time that begins before them.
-/
namespace SeriesQuery

namespace Series

variable {V : Type} [Scalar V]

/-- The totals after each of some amounts, from a given total on. -/
def totals (total : V) : List (Int × V) → List (Int × V)
  | [] => []
  | (instant, amount) :: rest => (instant, total + amount) :: totals (total + amount) rest

theorem instants_totals (total : V) (amounts : List (Int × V)) :
    (totals total amounts).map (·.1) = amounts.map (·.1) := by
  induction amounts generalizing total with
  | nil => rfl
  | cons amount rest ih => simp [totals, ih]

omit [Scalar V] in
theorem filter_eq_nil_of_late {samples : List (Int × V)} {stop : Int}
    (late : ∀ instant ∈ samples.map (·.1), stop ≤ instant) :
    samples.filter (fun sample => sample.1 < stop) = [] := by
  apply List.filter_eq_nil_iff.mpr
  intro sample member
  have := late sample.1 (List.mem_map_of_mem member)
  simpa using this

/-- The totals before an instant are the totals of the amounts before it. -/
theorem filter_totals (total : V) {amounts : List (Int × V)} (stop : Int)
    (sorted : amounts.Pairwise fun a b => compare a.1 b.1 = .lt) :
    (totals total amounts).filter (fun sample => sample.1 < stop) =
      totals total (amounts.filter fun sample => sample.1 < stop) := by
  induction amounts generalizing total with
  | nil => rfl
  | cons amount rest ih =>
      rcases List.pairwise_cons.mp sorted with ⟨above, tail⟩
      by_cases early : amount.1 < stop
      · simp [totals, early, ih _ tail]
      · have late : ∀ instant ∈ rest.map (·.1), stop ≤ instant := by
          intro instant member
          rcases List.mem_map.mp member with ⟨sample, held, rfl⟩
          have := Int.compare_eq_lt.mp (above sample held)
          omega
        have nothing := filter_eq_nil_of_late late
        rw [← instants_totals (total + amount.2)] at late
        simp [totals, early, nothing, filter_eq_nil_of_late late]

/-- What can be counted up: finite values that are not below zero. -/
def Counts (amounts : List (Int × V)) : Prop :=
  ∀ sample ∈ amounts, Scalar.isFinite sample.2 = true ∧ Scalar.ofNat 0 ≤ sample.2

theorem increment_add [Scalar.Unrounded V] {total amount : V}
    (finite : Scalar.isFinite total = true) (counts : Scalar.isFinite amount = true)
    (positive : Scalar.ofNat 0 ≤ amount) : increment total (total + amount) = amount := by
  have grown : hasFallen total (total + amount) = false := by
    simp [hasFallen, Scalar.Unrounded.le_add finite counts positive]
  rw [increment, grown]
  exact Scalar.Unrounded.add_sub finite counts

/-- Each total set against the one before gives the amounts back. -/
theorem zipWith_totals [Scalar.Unrounded V] (anchor : Int) {total : V}
    {amounts : List (Int × V)} (finite : Scalar.isFinite total = true) (counts : Counts amounts) :
    (((anchor, total) :: totals total amounts).zipWith (fun before after => (before.2, after))
      (totals total amounts)).map
        (fun (before, instant, value) => (instant, increment before value)) = amounts := by
  induction amounts generalizing anchor total with
  | nil => rfl
  | cons amount rest ih =>
      rcases counts amount List.mem_cons_self with ⟨here, positive⟩
      have later : Counts rest := fun sample member => counts sample (List.mem_cons_of_mem _ member)
      rw [totals, List.zipWith_cons_cons, List.map_cons,
        ih amount.1 (Scalar.Unrounded.isFinite_add finite here) later]
      simp only [increment_add finite here positive]

/--
A series of amounts and a series of their running totals under the same key. The totals begin at an
anchor, and with any total.
-/
structure Accumulated (anchor : Int) (total : V) (amounts running : Series V) : Prop where
  key : running.key = amounts.key
  type : running.type = amounts.type
  monotonic : amounts.type.isMonotonic = true
  delta : amounts.temporality = .delta
  notDelta : running.temporality ≠ .delta
  entries : running.samples.entries = (anchor, total) :: totals total amounts.samples.entries
  finite : Scalar.isFinite total = true
  counts : Counts amounts.samples.entries

namespace Accumulated

variable {anchor : Int} {total : V} {amounts running : Series V}

theorem anchor_lt (accumulated : Accumulated anchor total amounts running) {sample : Int × V}
    (member : sample ∈ amounts.samples.entries) : anchor < sample.1 := by
  have sorted := running.samples.sorted
  rw [accumulated.entries] at sorted
  have held : sample.1 ∈ (totals total amounts.samples.entries).map (·.1) := by
    rw [instants_totals]
    exact List.mem_map_of_mem member
  rcases List.mem_map.mp held with ⟨other, later, same⟩
  exact same ▸ Int.compare_eq_lt.mp ((List.pairwise_cons.mp sorted).1 other later)

/-- A window that begins before the anchor shows the totals of what it shows of the amounts. -/
theorem range (accumulated : Accumulated anchor total amounts running) {start stop : Int}
    (from' : start ≤ anchor) (until' : anchor < stop) :
    Accumulated anchor total (amounts.range start stop) (running.range start stop) where
  key := accumulated.key
  type := accumulated.type
  monotonic := accumulated.monotonic
  delta := accumulated.delta
  notDelta := accumulated.notDelta
  finite := accumulated.finite
  counts sample member := accumulated.counts sample (amounts.mem_of_mem_range member)
  entries := by
    have early {samples : List (Int × V)}
        (after : ∀ instant ∈ samples.map (·.1), anchor < instant) :
        samples.filter (fun sample => start ≤ sample.1 ∧ sample.1 < stop) =
          samples.filter fun sample => sample.1 < stop := by
      apply List.filter_congr
      intro sample member
      have := after sample.1 (List.mem_map_of_mem member)
      grind
    have after : ∀ instant ∈ amounts.samples.entries.map (·.1), anchor < instant := by
      intro instant member
      rcases List.mem_map.mp member with ⟨sample, held, rfl⟩
      exact accumulated.anchor_lt held
    have after' := after
    rw [← instants_totals total] at after'
    calc
      (running.range start stop).samples.entries =
          ((anchor, total) :: totals total amounts.samples.entries).filter
            (fun sample => start ≤ sample.1 ∧ sample.1 < stop) := by
        rw [← accumulated.entries, Series.entries_range]
      _ = (anchor, total) :: (totals total amounts.samples.entries).filter
            (fun sample => sample.1 < stop) := by
        rw [List.filter_cons_of_pos (by simpa using ⟨from', until'⟩), early after']
      _ = (anchor, total) :: totals total (amounts.range start stop).samples.entries := by
        rw [filter_totals total stop amounts.samples.sorted, ← early after, Series.entries_range]

/-- Running totals count as the amounts they add up. -/
theorem increments_points [Scalar.Unrounded V]
    (accumulated : Accumulated anchor total amounts running) (start : Int) :
    (running.increments start).points = (amounts.increments start).points := by
  have plain : amounts.isRunningTotal = false := by
    simp [isRunningTotal, accumulated.delta]
  have runs : running.isRunningTotal = true := by
    simp [isRunningTotal, accumulated.type, accumulated.monotonic, accumulated.notDelta]
  have kept := congrArg (List.filter fun point => decide (start ≤ point.1))
    (zipWith_totals anchor accumulated.finite accumulated.counts)
  rw [List.filter_map] at kept
  simp only [increments, runs, plain, successions, accumulated.entries, List.tail_cons]
  exact kept

end Accumulated

end Series

end SeriesQuery
