import SeriesQuery.Store
import SeriesQuery.Proofs.Series
/-! Stores as insertions leave them: every series stands under its own key. -/
namespace SeriesQuery.Store

open SortedMap

variable {V : Type} [Scalar V]

/-- Stores that come about from an empty one by insertions. -/
inductive Reached : Store V → Prop where
  | empty (limit : Nat) : Reached (.empty limit)
  | insert {store grown : Store V} {sample : Sample V} (before : Reached store)
      (done : store.insert sample = (grown, .ok ())) : Reached grown

/-- A sample that is refused leaves the store as it is. -/
theorem eq_of_insert_refused {store left : Store V} {sample : Sample V} {failure : Failure}
    (refused : store.insert sample = (left, .error failure)) : left = store := by
  unfold Store.insert reserve at refused
  grind

/-- Samples stored one after the other, up to a refused one. -/
theorem Reached.insertAll {store : Store V} (reached : store.Reached) (samples : List (Sample V)) :
    (store.insertAll samples).1.Reached := by
  induction samples generalizing store with
  | nil => exact reached
  | cons sample rest ih =>
      rw [Store.insertAll]
      split
      · rename_i left failure refused
        exact eq_of_insert_refused refused ▸ reached
      · rename_i grown done
        exact ih (reached.insert done)

/-- Series are found under their own keys. -/
def Keyed (store : Store V) : Prop :=
  ∀ key series, store.series.get? key = some series → series.key = key

/-- The series that begins with a sample. -/
def begun (sample : Sample V) : Series V :=
  ⟨sample.key, sample.type, sample.temporality, .ofList [(sample.instant, sample.value)]⟩

theorem of?_eq_none_iff {value : V} :
    NonFinite.of? value = none ↔ Scalar.isFinite value = true := by
  unfold NonFinite.of?
  split
  · rename_i finite
    simp [finite]
  · rename_i infinite
    split <;> simp [infinite]

omit [Scalar V] in
theorem ofSamples_one (sample : Sample V) :
    Series.ofSamples sample.key sample.type sample.temporality [(sample.instant, sample.value)] =
      .ok (begun sample) := by
  simp [Series.ofSamples, Series.firstRepeated, begun]

/-- When a sample is stored, and what is stored then: its series grows, or begins. -/
theorem insert_eq_ok_iff {store grown : Store V} {sample : Sample V} :
    store.insert sample = (grown, .ok ()) ↔ Scalar.isFinite sample.value = true ∧
      ((∃ series, store.series.get? sample.key = some series ∧ series.type = sample.type ∧
          series.temporality = sample.temporality ∧ grown = { store with
            series := store.series.insert sample.key
              (series.upsert sample.instant sample.value) }) ∨
        (store.series.get? sample.key = none ∧ store.reserved < store.limit ∧ grown = { store with
          series := store.series.insert sample.key (begun sample)
          reserved := store.reserved + 1 })) := by
  rw [← of?_eq_none_iff, Store.insert]
  cases NonFinite.of? sample.value with
  | some value => simp
  | none =>
      cases found : store.series.get? sample.key with
      | some series =>
          by_cases alike : series.type = sample.type ∧ series.temporality = sample.temporality
          · simp [alike, eq_comm]
          · simp only [if_neg alike]
            constructor
            · intro impossible
              cases impossible
            · rintro ⟨-, ⟨_, same, type, temporality, -⟩ | ⟨absent, -⟩⟩
              · cases same
                exact absurd ⟨type, temporality⟩ alike
              · cases absent
      | none =>
          by_cases room : store.reserved < store.limit
          · simp [ofSamples_one, reserve, room, eq_comm]
          · simp [ofSamples_one, reserve, room]

/-- What one insertion does to the map of series. -/
theorem insert_cases {store grown : Store V} {sample : Sample V} (keyed : store.Keyed)
    (done : store.insert sample = (grown, .ok ())) :
    ∃ series : Series V, series.key = sample.key ∧
      grown.series = store.series.insert sample.key series := by
  rcases (insert_eq_ok_iff.mp done).2 with ⟨series, found, -, -, rfl⟩ | ⟨-, -, rfl⟩
  · exact ⟨series.upsert sample.instant sample.value, keyed sample.key series found, rfl⟩
  · exact ⟨begun sample, rfl, rfl⟩

theorem Keyed.insert {store grown : Store V} {sample : Sample V} (keyed : store.Keyed)
    (done : store.insert sample = (grown, .ok ())) : grown.Keyed := by
  rcases insert_cases keyed done with ⟨placed, own, all⟩
  intro key series found
  rw [all, get?_insert] at found
  by_cases same : key = sample.key
  · subst same
    rw [if_pos rfl] at found
    cases found
    exact own
  · rw [if_neg same] at found
    exact keyed key series found

theorem Reached.keyed {store : Store V} (reached : store.Reached) : store.Keyed := by
  induction reached with
  | empty limit =>
      intro key series found
      simp [Store.empty] at found
  | insert _ done ih => exact ih.insert done

omit [Scalar V] in
theorem Keyed.sorted_values {store : Store V} (keyed : store.Keyed) :
    store.series.values.Pairwise fun a b => compare a.key b.key = .lt := by
  refine List.pairwise_map.mpr (List.Pairwise.imp_of_mem ?_ store.series.sorted)
  intro a b first second less
  rw [keyed a.1 a.2 (get?_eq_some_iff.mpr first), keyed b.1 b.2 (get?_eq_some_iff.mpr second)]
  exact less

end SeriesQuery.Store
