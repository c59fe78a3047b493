import Mathlib.Data.List.Permutation
import SeriesQuery.Series
import SeriesQuery.Proofs.Search
import SeriesQuery.Proofs.SortedMap
/-!
Series as maps from instants to values. Main statement: samples make a series just when no two of
them share an instant, and whatever is added to it later, it holds the last value of every instant
in the order of time, and its searches stay within it and find what lies in a range.
-/
namespace SeriesQuery

open SortedMap

variable {V : Type}

theorem Place.within_placeOf {α : Type} (order : α → Ordering) (list : List α) :
    (placeOf order list).Within list.length := by
  have inside := cutPosition_le_length (fun entry => order entry != .gt) list
  rw [placeOf]
  split
  · exact Nat.zero_le _
  · rename_i last cut
    rw [cut] at inside
    split
    · exact inside
    · exact inside

theorem increasing_keys (samples : SortedMap Int V) : samples.keys.Pairwise (· < ·) :=
  List.pairwise_map.mpr (samples.sorted.imp fun less => Int.compare_eq_lt.mp less)

namespace Series

theorem firstRepeated_eq_none {samples : List (Int × V)}
    (sorted : samples.Pairwise fun a b => compare a.1 b.1 = .lt) :
    firstRepeated samples = none := by
  fun_induction firstRepeated samples with
  | case1 first second rest same =>
      have less := (List.pairwise_cons.mp sorted).1 second List.mem_cons_self
      exact absurd same (SortedMap.ne_of_lt less)
  | case2 first second rest apart ih => exact ih (List.pairwise_cons.mp sorted).2
  | case3 => rfl

/-! Ranges -/

section Range

variable (series : Series V) (start stop : Int)

theorem settled_before (instant : Int) :
    series.samples.entries.Pairwise fun a b =>
      decide (b.1 < instant) = true → decide (a.1 < instant) = true := by
  refine series.samples.sorted.imp fun less before => ?_
  have := Int.compare_eq_lt.mp less
  have := of_decide_eq_true before
  exact decide_eq_true (by omega)

theorem entries_range :
    (series.range start stop).samples.entries =
      series.samples.entries.filter fun sample => start ≤ sample.1 ∧ sample.1 < stop := by
  refine (extract_cutPosition (series.settled_before start) (series.settled_before stop)).trans ?_
  refine List.filter_congr fun sample _ => ?_
  rw [Bool.decide_and, ← decide_not, decide_eq_decide.mpr Int.not_lt]

theorem mem_of_mem_range {start stop : Int} {sample : Int × V}
    (member : sample ∈ (series.range start stop).samples.entries) :
    sample ∈ series.samples.entries := by
  rw [entries_range] at member
  exact (List.mem_filter.mp member).1

theorem range_eq_filter :
    series.range start stop =
      { series with
        samples := series.samples.filter fun instant _ => start ≤ instant ∧ instant < stop } := by
  have samples : (series.range start stop).samples =
      series.samples.filter fun instant _ => start ≤ instant ∧ instant < stop :=
    entries_injective (series.entries_range start stop)
  rw [← samples]
  rfl

end Range

theorem get?_upsert (series : Series V) (instant other : Int) (value : V) :
    (series.upsert instant value).samples.get? other =
      if other = instant then some value else series.samples.get? other := by
  rw [upsert, put_eq_insert, get?_insert]

/-! Building -/

section OfSamples

variable {samples : List (Int × V)}

/-- In the order of time, an instant that comes up again comes up at once. -/
theorem firstRepeated_eq_none_iff (ordered : samples.Pairwise fun a b => a.1 ≤ b.1) :
    firstRepeated samples = none ↔ samples.Pairwise fun a b => compare a.1 b.1 = .lt := by
  refine ⟨fun none => ?_, firstRepeated_eq_none⟩
  fun_induction firstRepeated samples with
  | case1 first second rest same => cases none
  | case2 first second rest apart ih =>
      rcases List.pairwise_cons.mp ordered with ⟨least, tail⟩
      have less : first.1 < second.1 :=
        Int.lt_iff_le_and_ne.mpr ⟨least second List.mem_cons_self, apart⟩
      refine List.pairwise_cons.mpr ⟨fun sample member => ?_, ih tail none⟩
      rcases List.mem_cons.mp member with rfl | later
      · exact Int.compare_eq_lt.mpr less
      · exact Int.compare_eq_lt.mpr
          (Int.lt_of_lt_of_le less ((List.pairwise_cons.mp tail).1 sample later))
  | case3 samples short =>
      match samples with
      | [] => exact List.Pairwise.nil
      | [_] => exact List.pairwise_singleton _ _
      | first :: second :: rest => exact (short first second rest rfl).elim

theorem sorted_iff_nodup (ordered : samples.Pairwise fun a b => a.1 ≤ b.1) :
    (samples.Pairwise fun a b => compare a.1 b.1 = .lt) ↔ (samples.map (·.1)).Nodup := by
  rw [List.Nodup, List.pairwise_map]
  constructor
  · exact fun sorted => sorted.imp fun less => SortedMap.ne_of_lt less
  · intro distinct
    refine List.Pairwise.imp₂ (fun _ _ le apart => ?_) ordered distinct
    exact Int.compare_eq_lt.mpr (Int.lt_iff_le_and_ne.mpr ⟨le, apart⟩)

/-- The samples in the order of time. -/
def inOrder (samples : List (Int × V)) : List (Int × V) := samples.mergeSort fun a b => a.1 ≤ b.1

theorem ordered_inOrder (samples : List (Int × V)) :
    (inOrder samples).Pairwise fun a b => a.1 ≤ b.1 := by
  have sorted : (inOrder samples).Pairwise fun a b => decide (a.1 ≤ b.1) = true := by
    refine List.pairwise_mergeSort (fun a b c first second => ?_) (fun a b => ?_) samples
    · exact decide_eq_true (Int.le_trans (of_decide_eq_true first) (of_decide_eq_true second))
    · simpa using Int.le_total a.1 b.1
  exact sorted.imp of_decide_eq_true

theorem inOrder_perm (samples : List (Int × V)) : (inOrder samples).Perm samples :=
  List.mergeSort_perm samples _

theorem firstRepeated_inOrder (samples : List (Int × V)) :
    firstRepeated (inOrder samples) = none ↔ (samples.map (·.1)).Nodup := by
  have ordered := ordered_inOrder samples
  rw [firstRepeated_eq_none_iff ordered, sorted_iff_nodup ordered,
    ((inOrder_perm samples).map _).nodup_iff]

theorem ofSamples_isError_iff {key : SeriesKey} {type : MetricType} {temporality : Temporality} :
    (∃ fault, ofSamples key type temporality samples = .error fault) ↔
      ¬ (samples.map (·.1)).Nodup := by
  rw [← firstRepeated_inOrder, inOrder, ofSamples]
  split
  · rename_i repeated
    simp [repeated]
  · rename_i distinct
    simp [distinct]

theorem entries_of_ofSamples {key : SeriesKey} {type : MetricType} {temporality : Temporality}
    {series : Series V} (made : ofSamples key type temporality samples = .ok series) :
    series.samples.entries = inOrder samples := by
  rw [ofSamples] at made
  split at made
  · cases made
  · rename_i distinct
    have sorted := (firstRepeated_eq_none_iff (ordered_inOrder samples)).mp distinct
    cases made
    exact congrArg entries (ofList_entries ⟨inOrder samples, sorted⟩)

end OfSamples

/-! Maps -/

/-- The value that was given last for an instant. -/
def lastAt? (instant : Int) (given : List (Int × V)) : Option V :=
  (given.reverse.find? fun sample => sample.1 = instant).map (·.2)

theorem lastAt?_concat (instant : Int) (given : List (Int × V)) (sample : Int × V) :
    lastAt? instant (given ++ [sample]) =
      if instant = sample.1 then some sample.2 else lastAt? instant given := by
  rw [lastAt?, List.reverse_concat, List.find?_cons]
  by_cases same : sample.1 = instant
  · simp [same]
  · simp [same, Ne.symm same, lastAt?]

theorem find?_eq_some_iff_mem {samples : List (Int × V)} (distinct : (samples.map (·.1)).Nodup)
    {instant : Int} {value : V} :
    (samples.find? fun sample => sample.1 = instant).map (·.2) = some value ↔
      (instant, value) ∈ samples := by
  induction samples with
  | nil => simp
  | cons first rest ih =>
      rcases List.nodup_cons.mp distinct with ⟨fresh, tail⟩
      by_cases same : first.1 = instant
      · subst same
        have absent : (first.1, value) ∉ rest := fun member =>
          fresh (List.mem_map_of_mem (f := (·.1)) member)
        simp [absent, Prod.ext_iff, eq_comm]
      · have apart : (instant, value) ≠ first := fun equal => same (equal ▸ rfl)
        rw [List.find?_cons_of_neg (by simpa using same), ih tail, List.mem_cons,
          or_iff_right apart]

theorem lastAt?_eq_some_iff {given : List (Int × V)} (distinct : (given.map (·.1)).Nodup)
    {instant : Int} {value : V} :
    lastAt? instant given = some value ↔ (instant, value) ∈ given := by
  have distinct' : (given.reverse.map (·.1)).Nodup :=
    ((List.reverse_perm given).map _).nodup_iff.mpr distinct
  rw [lastAt?, find?_eq_some_iff_mem distinct', List.mem_reverse]

/-- Whether a series is the map that samples make which are given one after another. -/
structure IsMap (series : Series V) (given : List (Int × V)) : Prop where
  ascending : series.samples.keys.Pairwise (· < ·)
  held : ∀ instant value,
    (instant, value) ∈ series.samples.entries ↔ lastAt? instant given = some value
  place : ∀ instant, (placeOf (fun sample => compare sample.1 instant)
    series.samples.entries).Within series.samples.size
  bounds : ∀ start stop, (series.bounds start stop).1 ≤ (series.bounds start stop).2 ∧
    (series.bounds start stop).2 ≤ series.samples.size
  range : ∀ start stop, (series.range start stop).samples.entries =
    series.samples.entries.filter fun sample => start ≤ sample.1 ∧ sample.1 < stop

theorem isMap_iff {series : Series V} {given : List (Int × V)} :
    series.IsMap given ↔ ∀ instant, series.samples.get? instant = lastAt? instant given := by
  constructor
  · intro map instant
    ext value
    rw [get?_eq_some_iff, map.held]
  · intro same
    exact {
      ascending := increasing_keys _
      held instant value := by rw [← same, get?_eq_some_iff]
      place instant := Place.within_placeOf _ _
      bounds start stop := ⟨Nat.le_max_right _ _,
        Nat.max_le.mpr ⟨cutPosition_le_length _ _, cutPosition_le_length _ _⟩⟩
      range := series.entries_range }

theorem IsMap.upsert {series : Series V} {given : List (Int × V)} (map : series.IsMap given)
    (sample : Int × V) : (series.upsert sample.1 sample.2).IsMap (given ++ [sample]) := by
  refine isMap_iff.mpr fun instant => ?_
  rw [get?_upsert, lastAt?_concat, isMap_iff.mp map]

/-- Adds samples one after another. -/
def upsertAll (series : Series V) (later : List (Int × V)) : Series V :=
  later.foldl (fun series sample => series.upsert sample.1 sample.2) series

theorem IsMap.upsertAll {series : Series V} {given : List (Int × V)} (map : series.IsMap given)
    (later : List (Int × V)) : (series.upsertAll later).IsMap (given ++ later) := by
  induction later generalizing series given with
  | nil =>
      rw [List.append_nil]
      exact map
  | cons sample rest ih =>
      rw [List.append_cons]
      exact ih (map.upsert sample)

/-- Samples with instants of their own make a map, and stay one under whatever is added. -/
theorem isMap_upsertAll (key : SeriesKey) (type : MetricType) (temporality : Temporality)
    (samples : List (Int × V)) :
    ((∃ fault, ofSamples key type temporality samples = .error fault) ↔
        ¬ (samples.map (·.1)).Nodup) ∧
      ∀ series, ofSamples key type temporality samples = .ok series →
        series.samples.entries.Perm samples ∧
          ∀ later, (series.upsertAll later).IsMap (samples ++ later) := by
  refine ⟨ofSamples_isError_iff, fun series made => ?_⟩
  have held := entries_of_ofSamples made ▸ inOrder_perm samples
  have distinct : (samples.map (·.1)).Nodup := by
    refine Classical.not_not.mp fun repeated => ?_
    rcases ofSamples_isError_iff.mpr repeated with ⟨fault, failed⟩
    cases made.symm.trans failed
  have map : series.IsMap samples := by
    refine isMap_iff.mpr fun instant => ?_
    ext value
    rw [get?_eq_some_iff, lastAt?_eq_some_iff distinct, held.mem_iff]
  exact ⟨held, map.upsertAll⟩

def levels : Series String :=
  ⟨⟨"level", ∅⟩, .gauge, .unspecified, .ofList [(0, "x"), (2000, "y"), (3000, "z")]⟩

/-- Instants among the held ones, before them all, and twice in a row. -/
def corrections : List (Int × String) := [(2000, "b"), (-500, "c"), (1000, "d"), (1000, "e")]

theorem isMap_upsertAll_levels :
    ofSamples levels.key .gauge .unspecified [(3000, "z"), (0, "x"), (2000, "y")] = .ok levels ∧
      levels.samples.entries.Perm [(3000, "z"), (0, "x"), (2000, "y")] ∧
      (levels.upsertAll corrections).IsMap
        ([(3000, "z"), (0, "x"), (2000, "y")] ++ corrections) ∧
      (levels.upsertAll corrections).samples.entries =
        [(-500, "c"), (0, "x"), (1000, "e"), (2000, "b"), (3000, "z")] ∧
      ((levels.upsertAll corrections).range 0 2000).samples.entries = [(0, "x"), (1000, "e")] ∧
      ((levels.upsertAll corrections).range 2000 0).samples.entries = [] := by
  have made : ofSamples levels.key .gauge .unspecified [(3000, "z"), (0, "x"), (2000, "y")] =
      .ok levels := by
    cbv
  rcases (isMap_upsertAll levels.key .gauge .unspecified
    [(3000, "z"), (0, "x"), (2000, "y")]).2 levels made with ⟨held, map⟩
  exact ⟨made, held, map corrections, by decide +kernel, by decide +kernel, by decide +kernel⟩

end Series

end SeriesQuery
