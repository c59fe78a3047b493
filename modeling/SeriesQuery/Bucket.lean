import SeriesQuery.Grouping
import SeriesQuery.Search
import SeriesQuery.Threshold
/-!
Histogram buckets at one step: counts of the observations up to each bound, and what can be read off
them.

Between two finite bounds counts are taken to grow evenly. Nothing is assumed beyond the last finite
bound, and before the first one counting starts from zero at zero.
-/
namespace SeriesQuery

structure Bucket (V : Type) where
  /-- Upper bound, itself included. -/
  bound : V
  /-- Observations up to the bound. -/
  count : V
  deriving BEq

/-- What is read off the buckets of a step. -/
inductive BucketQuery (V : Type) where
  | threshold (threshold : Threshold V)
  | quantile (part : V)

namespace Bucket

variable {V : Type} [Scalar V]

/-- Neighbours with one bound become one bucket with the sum of their counts. -/
def joinOnto (kept : Bucket V) : List (Bucket V) → List (Bucket V)
  | [] => [kept]
  | next :: rest =>
    if next.bound == kept.bound then joinOnto ⟨kept.bound, kept.count + next.count⟩ rest
    else kept :: joinOnto next rest

def joinEqual : List (Bucket V) → List (Bucket V)
  | [] => []
  | first :: rest => joinOnto first rest

/-- Raises every count that is below an earlier one. -/
def raise (reached : V) : List (Bucket V) → List (Bucket V)
  | [] => []
  | bucket :: rest =>
    let count := if bucket.count < reached then reached else bucket.count
    ⟨bucket.bound, count⟩ :: raise count rest

/-- Whether a count is below an earlier one. -/
def falls (reached : V) : List (Bucket V) → Bool
  | [] => false
  | bucket :: rest =>
    decide (bucket.count < reached) ||
      falls (if bucket.count < reached then reached else bucket.count) rest

/-- Buckets in the order of their bounds, one for each bound. -/
def ordered (buckets : List (Bucket V)) : List (Bucket V) :=
  joinEqual (buckets.mergeSort fun a b => Scalar.compareTotal a.bound b.bound != .gt)

/-- Ordered buckets whose counts do not fall. -/
def prepare (buckets : List (Bucket V)) : List (Bucket V) :=
  raise (-Scalar.infinity) (ordered buckets)

/-- Whether preparing the buckets has to change a count. -/
def areInconsistent (buckets : List (Bucket V)) : Bool :=
  falls (-Scalar.infinity) (ordered buckets)

def total (buckets : List (Bucket V)) : V :=
  match buckets.getLast? with
  | some last => last.count
  | none => Scalar.ofNat 0

/-- The bucket before the given position; before the first one stands an empty bucket at zero. -/
def before (buckets : List (Bucket V)) (position : Nat) : Bucket V :=
  match position with
  | 0 => ⟨Scalar.ofNat 0, Scalar.ofNat 0⟩
  | previous + 1 => buckets[previous]?.getD ⟨Scalar.ofNat 0, Scalar.ofNat 0⟩

/-- The buckets with a finite bound. -/
def finite (buckets : List (Bucket V)) : List (Bucket V) :=
  buckets.take (cutPosition (fun bucket => Scalar.isFinite bucket.bound) buckets)

/-- The count on the line between two buckets. -/
def countBetween (lower upper : Bucket V) (bound : V) : V :=
  lower.count +
    (upper.count - lower.count) * (bound - lower.bound) / (upper.bound - lower.bound)

/-- Observations at most `bound`, for prepared buckets. -/
def countAtMost (buckets : List (Bucket V)) (bound : V) : V :=
  let finite := finite buckets
  match finite.getLast? with
  | none => Scalar.ofNat 0
  | some last =>
    if last.bound ≤ bound then last.count
    else
      let position := cutPosition (fun bucket => decide (bucket.bound < bound)) finite
      let upper := finite[position]?.getD last
      let lower := before finite position
      if upper.bound == bound then upper.count
      else if bound ≤ lower.bound ∨ upper.bound ≤ lower.bound then lower.count
      else countBetween lower upper bound

def evaluateThreshold? (buckets : List (Bucket V)) (threshold : Threshold V) : Option V :=
  if buckets.isEmpty then none
  else
    let atMost := countAtMost buckets threshold.bound
    match threshold.comparison with
    | .atMost => some atMost
    | .above => some (total buckets - atMost)

/-- The bound on the line between two buckets at which a rank is reached. -/
def boundBetween (lower upper : Bucket V) (rank : V) : V :=
  lower.bound +
    (upper.bound - lower.bound) * (rank - lower.count) / (upper.count - lower.count)

/-- The last finite bound before a position. -/
def lastFiniteBound? (buckets : List (Bucket V)) (position : Nat) : Option V :=
  ((buckets.take position).reverse.find? fun bucket => Scalar.isFinite bucket.bound).map (·.bound)

/--
The bound below which the given part of all observations lies, for prepared buckets. There is none
without observations or without a finite bound to report.
-/
def quantile? (buckets : List (Bucket V)) (part : V) : Option V := do
  let last ← buckets.getLast?
  let total := total buckets
  if total ≤ Scalar.ofNat 0 then none
  let rank := Scalar.clamp (Scalar.ofNat 0) (Scalar.ofNat 1) part * total
  let position :=
    min (cutPosition (fun bucket => decide (bucket.count < rank)) buckets) (buckets.length - 1)
  let upper := buckets[position]?.getD last
  let lower := before buckets position
  if !Scalar.isFinite upper.bound then lastFiniteBound? buckets position
  else if upper.count ≤ lower.count then some upper.bound
  else some (boundBetween lower upper rank)

def answer? (buckets : List (Bucket V)) : BucketQuery V → Option V
  | .threshold threshold => evaluateThreshold? buckets threshold
  | .quantile part => quantile? buckets part

/-- The buckets of every step, from one curve for each bound; curves without a bound are passed
over. -/
def gather (curves : List (Curve V)) : SortedMap Int (List (Bucket V)) :=
  curves.foldl
    (fun steps curve =>
      match (curve.labels.bound? : Option V) with
      | none => steps
      | some bound =>
        curve.points.entries.foldl
          (fun steps (boundary, count) =>
            steps.update boundary fun old => old.getD [] ++ [⟨bound, count⟩])
          steps)
    ∅

/-- The answer at every step of a group, and at how many steps its buckets are inconsistent. -/
def evaluateGroup (labels : Labels) (curves : List (Curve V)) (query : BucketQuery V) :
    Curve V × Nat :=
  let steps := gather curves
  (⟨labels, steps.filterMap fun _ buckets => answer? (prepare buckets) query⟩,
    steps.values.countP areInconsistent)

end Bucket

end SeriesQuery
