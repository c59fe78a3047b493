import SeriesQuery.Failure.Series
/-! Series: the samples of one metric under one set of labels, in the order of time. -/
namespace SeriesQuery

structure Series (V : Type) where
  key : SeriesKey
  type : MetricType
  temporality : Temporality
  samples : SortedMap Int V

/-- One observation, with everything that says where it belongs. -/
structure Sample (V : Type) where
  key : SeriesKey
  type : MetricType
  temporality : Temporality
  instant : Int
  value : V

namespace Series

variable {V : Type}

/-- The first of the instants, in the order of time, that two samples share. -/
def firstRepeated : List (Int × V) → Option Int
  | first :: second :: rest =>
    if first.1 = second.1 then some first.1 else firstRepeated (second :: rest)
  | _ => none

/-- A series of samples in any order; no two of them may share an instant. -/
def ofSamples (key : SeriesKey) (type : MetricType) (temporality : Temporality)
    (samples : List (Int × V)) : Except SeriesFault (Series V) :=
  let ordered := samples.mergeSort fun a b => a.1 ≤ b.1
  match firstRepeated ordered with
  | some instant => .error (.repeatedInstant instant key)
  | none => .ok ⟨key, type, temporality, .ofList ordered⟩

/--
The position of the first sample from `start` on, and the position after the last one before `stop`.
Nothing lies between them where `stop` comes first.
-/
def bounds (series : Series V) (start stop : Int) : Nat × Nat :=
  let first := cutPosition (fun sample => decide (sample.1 < start)) series.samples.entries
  let last := cutPosition (fun sample => decide (sample.1 < stop)) series.samples.entries
  (first, max last first)

/-- The samples from `start` on and before `stop`. -/
def range (series : Series V) (start stop : Int) : Series V :=
  let (first, last) := series.bounds start stop
  { series with samples := series.samples.slice first last }

/-- The series built again from its samples. -/
def rebuilt (series : Series V) : Except SeriesFault (Series V) :=
  ofSamples series.key series.type series.temporality series.samples.entries

/-- Adds a sample, or replaces the one at the same instant. -/
def upsert (series : Series V) (instant : Int) (value : V) : Series V :=
  { series with samples := series.samples.put instant value }

end Series

end SeriesQuery
