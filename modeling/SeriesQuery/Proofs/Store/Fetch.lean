import SeriesQuery.Proofs.Store
/-!
What a fetch gives: the stored series that are asked for, each cut to the range, in the order of
their keys, and each as sound a series as if it had been built from its samples.
-/
namespace SeriesQuery

open SortedMap

variable {V : Type}

namespace Series

theorem rebuilt_eq (series : Series V) : series.rebuilt = .ok series := by
  have ordered : series.samples.entries.mergeSort (fun a b => a.1 ≤ b.1) =
      series.samples.entries := by
    apply List.mergeSort_of_pairwise
    refine series.samples.sorted.imp fun less => ?_
    have := Int.compare_eq_lt.mp less
    simp
    omega
  simp only [rebuilt, ofSamples, ordered, firstRepeated_eq_none series.samples.sorted,
    ofList_entries]

theorem mapM_rebuilt (list : List (Series V)) : list.mapM rebuilt = .ok list := by
  induction list with
  | nil => rfl
  | cons series rest ih =>
      rw [List.mapM_cons, rebuilt_eq, ih]
      rfl

theorem get?_range (series : Series V) (start stop instant : Int) :
    (series.range start stop).samples.get? instant =
      if start ≤ instant ∧ instant < stop then series.samples.get? instant else none := by
  rw [range_eq_filter, get?_filter]
  by_cases inside : start ≤ instant ∧ instant < stop
  · cases series.samples.get? instant <;> simp [inside]
  · cases series.samples.get? instant <;> simp [inside]

end Series

namespace Store

/-- No series is refused when it is built again. -/
theorem fetch_eq_select (store : Store V) (metric : String) (filter : Filter) (start stop : Int) :
    store.fetch metric filter start stop = .ok (store.select metric filter start stop) :=
  Series.mapM_rebuilt _

theorem mem_select {store : Store V} (keyed : store.Keyed) {metric : String} {filter : Filter}
    {start stop : Int} {series : Series V} :
    series ∈ store.select metric filter start stop ↔
      series.key.metric = metric ∧ filter.accepts series.key.labels = true ∧
      ∃ stored, store.series.get? series.key = some stored ∧ series = stored.range start stop ∧
        series.samples.isEmpty = false := by
  simp only [select, SortedMap.values, List.mem_filter, List.mem_map, Bool.and_eq_true, beq_iff_eq,
    Bool.not_eq_true']
  constructor
  · intro parts
    rcases parts with ⟨⟨stored, ⟨⟨entry, member, rfl⟩, name, accepts⟩, rfl⟩, filled⟩
    have found := get?_eq_some_iff.mpr member
    have own : entry.2.key = entry.1 := keyed entry.1 entry.2 found
    exact ⟨name, accepts, entry.2, own ▸ found, rfl, filled⟩
  · intro parts
    rcases parts with ⟨name, accepts, stored, found, rfl, filled⟩
    exact ⟨⟨stored, ⟨⟨_, get?_eq_some_iff.mp found, rfl⟩, name, accepts⟩, rfl⟩, filled⟩

theorem sorted_select {store : Store V} (keyed : store.Keyed) (metric : String) (filter : Filter)
    (start stop : Int) :
    (store.select metric filter start stop).Pairwise fun a b => compare a.key b.key = .lt :=
  List.Pairwise.filter _ (List.pairwise_map.mpr (keyed.sorted_values.filter _))

end Store

end SeriesQuery
