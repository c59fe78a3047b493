import SeriesQuery.Failure
import SeriesQuery.Filter.Predicate
import SeriesQuery.Series
/-! A store of series in memory, up to a number of series. -/
namespace SeriesQuery

structure Store (V : Type) where
  series : SortedMap SeriesKey (Series V)
  /-- Places taken by series. -/
  reserved : Nat
  limit : Nat

namespace Store

variable {V : Type}

def empty (limit : Nat) : Store V := ⟨∅, 0, limit⟩

def clear (store : Store V) : Store V := empty store.limit

def size (store : Store V) : Nat := store.series.size

def isEmpty (store : Store V) : Bool := store.series.isEmpty

/--
The series with the name and accepted labels that have a sample from `start` on and before `stop`,
cut to that range, in the order of their keys.
-/
def select (store : Store V) (metric : String) (filter : Filter) (start stop : Int) :
    List (Series V) :=
  let named := store.series.values.filter fun series =>
    series.key.metric == metric && filter.accepts series.key.labels
  (named.map (·.range start stop)).filter fun series => !series.samples.isEmpty

/-- The same series, each of them built again from the samples that are left. -/
def fetch (store : Store V) (metric : String) (filter : Filter) (start stop : Int) :
    Except SeriesFault (List (Series V)) :=
  (store.select metric filter start stop).mapM Series.rebuilt

/-- Takes one more place. -/
def reserve (store : Store V) : Store V × Except Failure Unit :=
  if store.reserved < store.limit then ({ store with reserved := store.reserved + 1 }, .ok ())
  else (store, .error (.storeFull store.reserved store.limit))

variable [Scalar V]

/--
Stores one sample. The first sample of a series settles its type and temporality; a later sample at
the same instant replaces the earlier one.
-/
def insert (store : Store V) (sample : Sample V) : Store V × Except Failure Unit :=
  match NonFinite.of? sample.value with
  | some value => (store, .error (.series (.notFinite value sample.key)))
  | none =>
    match store.series.get? sample.key with
    | some series =>
      if series.type = sample.type ∧ series.temporality = sample.temporality then
        let grown := series.upsert sample.instant sample.value
        ({ store with series := store.series.insert sample.key grown }, .ok ())
      else
        (store, .error (.series (.conflict sample.key (series.type, series.temporality)
          (sample.type, sample.temporality))))
    | none =>
      match Series.ofSamples sample.key sample.type sample.temporality
        [(sample.instant, sample.value)] with
      | .error fault => (store, .error (.series fault))
      | .ok series =>
        match store.reserve with
        | (refusing, .error failure) => (refusing, .error failure)
        | (roomy, .ok ()) =>
          ({ roomy with series := roomy.series.insert sample.key series }, .ok ())

/-- Stores samples in order up to the first one that is refused, and tells how many; the samples
before a refused one stay. -/
def insertAll (store : Store V) : List (Sample V) → Store V × Except Failure Nat
  | [] => (store, .ok 0)
  | sample :: rest =>
    match store.insert sample with
    | (refusing, .error failure) => (refusing, .error failure)
    | (grown, .ok ()) =>
      let (last, stored) := grown.insertAll rest
      (last, stored.map (· + 1))

end Store

end SeriesQuery
