import Mathlib.Data.Set.Card
import SeriesQuery.Proofs.Store.Fetch
/-!
A store seen as a finite map from keys to what is held under them: a type, a temporality, and one
value for each of some instants. Main statement: after any insertions and clearings the store holds
what its accepted samples say, has room for exactly as many series as its limit leaves, and answers
with exactly the entries that are asked for.
-/
namespace SeriesQuery

open SortedMap

variable {V : Type}

/-- What is held under one key. -/
structure Held (V : Type) where
  type : MetricType
  temporality : Temporality
  value? : Int → Option V

/-- Everything that is held, by key. -/
abbrev Contents (V : Type) := SeriesKey → Option (Held V)

/-- A series as what is held under its key. -/
def Series.held (series : Series V) : Held V :=
  ⟨series.type, series.temporality, series.samples.get?⟩

namespace Contents

def nothing : Contents V := fun _ => none

/-- Takes in a sample, in place of the one at the same instant. -/
def put (contents : Contents V) (sample : Sample V) : Contents V := fun key =>
  if key = sample.key then
    some ⟨sample.type, sample.temporality, fun instant =>
      if instant = sample.instant then some sample.value
      else (contents key).bind (·.value? instant)⟩
  else contents key

/-- The number of keys. -/
noncomputable def size (contents : Contents V) : ℕ∞ := {key | (contents key).isSome}.encard

/-- Whether a sample has its place: under a key of its kind, or under a new one below a limit. -/
def Admits (contents : Contents V) (limit : Nat) (sample : Sample V) : Prop :=
  (∃ held, contents sample.key = some held ∧ held.type = sample.type ∧
    held.temporality = sample.temporality) ∨
  (contents sample.key = none ∧ contents.size < limit)

/-- Whether a series is what is held under its key, asked for and cut to a range. -/
def Answers (contents : Contents V) (metric : String) (filter : Filter) (start stop : Int)
    (series : Series V) : Prop :=
  series.key.metric = metric ∧ filter.accepts series.key.labels = true ∧
  ∃ held, contents series.key = some held ∧ series.type = held.type ∧
    series.temporality = held.temporality ∧
    (∃ instant, start ≤ instant ∧ instant < stop ∧ (held.value? instant).isSome) ∧
    ∀ instant, series.samples.get? instant =
      if start ≤ instant ∧ instant < stop then held.value? instant else none

end Contents

namespace Store

variable [Scalar V]

/-- What callers do to a store. -/
inductive Operation (V : Type) where
  | insert (sample : Sample V)
  | insertAll (samples : List (Sample V))
  | clear

/-- The samples of a list that are stored, up to the first one that is refused. -/
def accepted (store : Store V) : List (Sample V) → List (Sample V)
  | [] => []
  | sample :: rest =>
    match store.insert sample with
    | (grown, .ok ()) => sample :: grown.accepted rest
    | (_, .error _) => []

namespace Operation

def perform (store : Store V) : Operation V → Store V
  | insert sample => (store.insert sample).1
  | insertAll samples => (store.insertAll samples).1
  | clear => store.clear

/-- What is to be held after an operation, going by the samples that are accepted. -/
def record (store : Store V) (contents : Contents V) : Operation V → Contents V
  | insert sample => (store.accepted [sample]).foldl .put contents
  | insertAll samples => (store.accepted samples).foldl .put contents
  | clear => .nothing

end Operation

/-- One operation on a store and on what is to be held in it. -/
def step (state : Store V × Contents V) (operation : Operation V) : Store V × Contents V :=
  (operation.perform state.1, operation.record state.1 state.2)

/-- An empty store after some operations, and what is to be held in it. -/
def run (limit : Nat) (operations : List (Operation V)) : Store V × Contents V :=
  operations.foldl step (.empty limit, .nothing)

/-- Stored series have samples, in the order of time, and all of them finite. -/
structure Sound (series : Series V) : Prop where
  filled : series.samples.isEmpty = false
  increasing : series.samples.keys.Pairwise (· < ·)
  finite : ∀ instant value, series.samples.get? instant = some value →
    Scalar.isFinite value = true

/-- A store that holds the contents below a limit, with its places counted. -/
structure Represents (limit : Nat) (store : Store V) (contents : Contents V) : Prop where
  held : ∀ key, (store.series.get? key).map Series.held = contents key
  keyed : store.Keyed
  sound : ∀ key series, store.series.get? key = some series → Sound series
  counted : store.reserved = store.size
  within : store.size ≤ limit
  limited : store.limit = limit

theorem Sound.upsert {series : Series V} (sound : Sound series) (instant : Int) {value : V}
    (finite : Scalar.isFinite value = true) : Sound (series.upsert instant value) where
  filled := by
    apply isEmpty_eq_false_iff.mpr
    refine ⟨instant, ?_⟩
    simp [Series.get?_upsert]
  increasing := increasing_keys _
  finite := by
    intro at' held found
    rw [Series.get?_upsert] at found
    split at found
    · cases found
      exact finite
    · exact sound.finite at' held found

omit [Scalar V] in
theorem get?_begun (sample : Sample V) (instant : Int) :
    (begun sample).samples.get? instant =
      if instant = sample.instant then some sample.value else none := by
  rw [begun]
  exact get?_insert ∅ sample.instant instant sample.value

theorem sound_begun {sample : Sample V} (finite : Scalar.isFinite sample.value = true) :
    Sound (begun sample) where
  filled := by
    apply isEmpty_eq_false_iff.mpr
    refine ⟨sample.instant, ?_⟩
    simp [get?_begun]
  increasing := increasing_keys _
  finite := by
    intro instant value found
    rw [get?_begun] at found
    split at found
    · cases found
      exact finite
    · cases found

theorem represents_empty (limit : Nat) :
    Represents limit (.empty limit : Store V) .nothing where
  held := by
    intro key
    rfl
  keyed := (Reached.empty limit).keyed
  sound := by
    intro key series found
    cases found
  counted := rfl
  within := Nat.zero_le limit
  limited := rfl

namespace Represents

variable {limit : Nat} {store : Store V} {contents : Contents V}

theorem size_eq (represents : Represents limit store contents) :
    contents.size = store.size := by
  have domain : {key | (contents key).isSome} = (store.series.keys.toFinset : Set SeriesKey) := by
    ext key
    simp [← represents.held, mem_keys]
  rw [Contents.size, domain, Set.encard_coe_eq_coe_finsetCard,
    List.toFinset_card_of_nodup (keys_nodup _)]
  simp [SortedMap.keys, Store.size, SortedMap.size]

theorem admits_iff (represents : Represents limit store contents) (sample : Sample V) :
    contents.Admits limit sample ↔
      (∃ series, store.series.get? sample.key = some series ∧ series.type = sample.type ∧
        series.temporality = sample.temporality) ∨
      (store.series.get? sample.key = none ∧ store.reserved < store.limit) := by
  rw [Contents.Admits, represents.size_eq, ← represents.held, represents.counted,
    represents.limited]
  cases store.series.get? sample.key <;> simp [Series.held]

theorem insert_isOk_iff (represents : Represents limit store contents) (sample : Sample V) :
    (∃ grown, store.insert sample = (grown, .ok ())) ↔
      Scalar.isFinite sample.value = true ∧ contents.Admits limit sample := by
  rw [represents.admits_iff]
  constructor
  · intro parts
    rcases parts with ⟨grown, done⟩
    rcases insert_eq_ok_iff.mp done with ⟨finite, ⟨series, found, type, temporality, -⟩ | new⟩
    · exact ⟨finite, .inl ⟨series, found, type, temporality⟩⟩
    · exact ⟨finite, .inr ⟨new.1, new.2.1⟩⟩
  · intro parts
    rcases parts with ⟨finite, ⟨series, found, type, temporality⟩ | ⟨absent, room⟩⟩
    · exact ⟨_, insert_eq_ok_iff.mpr ⟨finite, .inl ⟨series, found, type, temporality, rfl⟩⟩⟩
    · exact ⟨_, insert_eq_ok_iff.mpr ⟨finite, .inr ⟨absent, room, rfl⟩⟩⟩

/-- Putting a series under its key puts what it holds there. -/
theorem held_insert (represents : Represents limit store contents) {sample : Sample V}
    {series : Series V} (type : series.type = sample.type)
    (temporality : series.temporality = sample.temporality)
    (values : ∀ instant, series.samples.get? instant =
      if instant = sample.instant then some sample.value
      else (store.series.get? sample.key).bind (·.samples.get? instant)) (key : SeriesKey) :
    ((store.series.insert sample.key series).get? key).map Series.held =
      contents.put sample key := by
  rw [Contents.put, ← represents.held, get?_insert]
  by_cases same : key = sample.key
  · subst same
    rw [if_pos rfl, if_pos rfl, Option.map_some, Series.held, type, temporality]
    congr 2
    funext instant
    rw [values]
    cases store.series.get? sample.key <;> rfl
  · rw [if_neg same, if_neg same]

theorem sound_insert (represents : Represents limit store contents) (added : SeriesKey)
    {series : Series V} (sound : Sound series) (key : SeriesKey) (other : Series V)
    (found : (store.series.insert added series).get? key = some other) : Sound other := by
  rw [get?_insert] at found
  split at found
  · cases found
    exact sound
  · exact represents.sound key other found

/-- A sample that is stored is put into the contents. -/
theorem insert {grown : Store V} {sample : Sample V}
    (represents : Represents limit store contents) (done : store.insert sample = (grown, .ok ())) :
    Represents limit grown (contents.put sample) := by
  have keyed := represents.keyed.insert done
  rcases insert_eq_ok_iff.mp done with
    ⟨finite, ⟨series, found, type, temporality, rfl⟩ | ⟨absent, room, rfl⟩⟩
  · have size : (store.series.insert sample.key
        (series.upsert sample.instant sample.value)).size = store.series.size := by
      rw [size_insert, found, Option.isSome_some, if_pos rfl]
    have values (instant : Int) :
        (series.upsert sample.instant sample.value).samples.get? instant =
          if instant = sample.instant then some sample.value
          else (store.series.get? sample.key).bind (·.samples.get? instant) := by
      rw [found]
      exact series.get?_upsert sample.instant instant sample.value
    have sound := (represents.sound sample.key series found).upsert sample.instant finite
    exact ⟨represents.held_insert type temporality values, keyed,
      represents.sound_insert sample.key sound, represents.counted.trans size.symm,
      size.trans_le represents.within, represents.limited⟩
  · have size : (store.series.insert sample.key (begun sample)).size = store.series.size + 1 := by
      rw [size_insert, absent, Option.isSome_none, if_neg Bool.false_ne_true]
    have values (instant : Int) : (begun sample).samples.get? instant =
        if instant = sample.instant then some sample.value
        else (store.series.get? sample.key).bind (·.samples.get? instant) := by
      rw [absent]
      exact get?_begun sample instant
    have below : store.series.size < limit := by
      have counted : store.reserved = store.series.size := represents.counted
      have limited := represents.limited
      omega
    exact ⟨represents.held_insert rfl rfl values, keyed,
      represents.sound_insert sample.key (sound_begun finite),
      (congrArg (· + 1) represents.counted).trans size.symm, size.trans_le below,
      represents.limited⟩

theorem insertAll (represents : Represents limit store contents) (samples : List (Sample V)) :
    Represents limit (store.insertAll samples).1
      ((store.accepted samples).foldl .put contents) := by
  induction samples generalizing store contents with
  | nil => exact represents
  | cons sample rest ih =>
      rw [Store.insertAll, accepted]
      rcases done : store.insert sample with ⟨left, failure | ⟨⟩⟩
      · exact eq_of_insert_refused done ▸ represents
      · exact ih (represents.insert done)

theorem perform (represents : Represents limit store contents) (operation : Operation V) :
    Represents limit (operation.perform store) (operation.record store contents) := by
  cases operation with
  | insert sample =>
      have stored := represents.insertAll [sample]
      rw [Operation.perform, Operation.record]
      rcases done : store.insert sample with ⟨left, failure | ⟨⟩⟩ <;>
        simpa [Store.insertAll, done] using stored
  | insertAll samples => exact represents.insertAll samples
  | clear =>
      have cleared := represents_empty (V := V) store.limit
      rw [represents.limited] at cleared
      exact represents.limited ▸ cleared

theorem mem_select_iff (represents : Represents limit store contents) (metric : String)
    (filter : Filter) (start stop : Int) (series : Series V) :
    series ∈ store.select metric filter start stop ↔
      contents.Answers metric filter start stop series := by
  rw [mem_select represents.keyed, Contents.Answers, ← represents.held]
  have inRange (stored : Series V) (instant : Int) :
      ((stored.range start stop).samples.get? instant).isSome ↔
        start ≤ instant ∧ instant < stop ∧ (stored.held.value? instant).isSome := by
    rw [Series.get?_range]
    by_cases inside : start ≤ instant ∧ instant < stop
    · simp [inside, Series.held]
    · rw [if_neg inside]
      simpa [Series.held] using fun after before => absurd ⟨after, before⟩ inside
  apply and_congr_right
  intro name
  apply and_congr_right
  intro accepts
  constructor
  · intro parts
    rcases parts with ⟨stored, found, rfl, filled⟩
    rcases isEmpty_eq_false_iff.mp filled with ⟨instant, there⟩
    exact ⟨stored.held, by rw [found]; rfl, rfl, rfl, ⟨instant, (inRange stored instant).mp there⟩,
      stored.get?_range start stop⟩
  · intro parts
    rcases parts with ⟨_, found, type, temporality, ⟨instant, there⟩, values⟩
    rcases Option.map_eq_some_iff.mp found with ⟨stored, stands, rfl⟩
    have same : series = stored.range start stop := by
      have samples : series.samples = (stored.range start stop).samples :=
        ext_get? fun instant => (values instant).trans (stored.get?_range start stop instant).symm
      have own := represents.keyed series.key stored stands
      cases series
      cases samples
      cases type
      cases temporality
      cases own
      rfl
    refine ⟨stored, stands, same, ?_⟩
    rw [same]
    exact isEmpty_eq_false_iff.mpr ⟨instant, (inRange stored instant).mpr there⟩

end Represents

theorem represents_run (limit : Nat) (operations : List (Operation V)) :
    Represents limit (run limit operations).1 (run limit operations).2 := by
  have preserved (state : Store V × Contents V) (represents : Represents limit state.1 state.2) :
      Represents limit (operations.foldl step state).1 (operations.foldl step state).2 := by
    induction operations generalizing state with
    | nil => exact represents
    | cons operation rest ih => exact ih (step state operation) (represents.perform operation)
  exact preserved (.empty limit, .nothing) (represents_empty limit)

/-- A list that is stored is stored to its end, and its samples are counted. -/
theorem insertAll_stored {store grown : Store V} {samples : List (Sample V)} {count : Nat}
    (stored : store.insertAll samples = (grown, .ok count)) :
    count = samples.length ∧ store.accepted samples = samples := by
  induction samples generalizing store count with
  | nil =>
      cases stored
      exact ⟨rfl, rfl⟩
  | cons sample rest ih =>
      rw [Store.insertAll] at stored
      rw [accepted]
      rcases done : store.insert sample with ⟨left, failure | ⟨⟩⟩
      · simp [done] at stored
      · rcases tail : left.insertAll rest with ⟨last, failure | more⟩
        · simp [done, tail, Except.map] at stored
        · simp only [done, tail, Except.map, Prod.mk.injEq, Except.ok.injEq] at stored
          rcases stored with ⟨rfl, rfl⟩
          rcases ih tail with ⟨counted, all⟩
          exact ⟨congrArg (· + 1) counted, congrArg (sample :: ·) all⟩

/-- A list that is refused is stored up to its first refused sample. -/
theorem insertAll_refused {store grown : Store V} {samples : List (Sample V)} {failure : Failure}
    (refused : store.insertAll samples = (grown, .error failure)) :
    ∃ before sample after, samples = before ++ sample :: after ∧
      store.insertAll before = (grown, .ok before.length) ∧
      grown.insert sample = (grown, .error failure) := by
  induction samples generalizing store with
  | nil => cases refused
  | cons sample rest ih =>
      rw [Store.insertAll] at refused
      rcases done : store.insert sample with ⟨left, reason | ⟨⟩⟩
      · rw [done] at refused
        cases refused
        cases eq_of_insert_refused done
        exact ⟨[], sample, rest, rfl, rfl, done⟩
      · rcases tail : left.insertAll rest with ⟨last, reason | count⟩
        · simp only [done, tail, Except.map, Prod.mk.injEq, Except.error.injEq] at refused
          rcases refused with ⟨rfl, rfl⟩
          rcases ih tail with ⟨before, other, after, rfl, stored, stops⟩
          refine ⟨sample :: before, other, after, rfl, ?_, stops⟩
          rw [Store.insertAll, done]
          simp [stored, Except.map]
        · simp [done, tail, Except.map] at refused

/-- A store that does with its series what a map does with its entries. -/
structure Refines (limit : Nat) (store : Store V) (contents : Contents V) : Prop where
  represents : Represents limit store contents
  size : contents.size = store.size
  insert : ∀ sample, (∃ grown, store.insert sample = (grown, .ok ())) ↔
    Scalar.isFinite sample.value = true ∧ contents.Admits limit sample
  refused : ∀ sample left failure, store.insert sample = (left, .error failure) → left = store
  stored : ∀ samples grown count, store.insertAll samples = (grown, .ok count) →
    count = samples.length ∧ store.accepted samples = samples
  stopped : ∀ samples grown failure, store.insertAll samples = (grown, .error failure) →
    ∃ before sample after, samples = before ++ sample :: after ∧
      store.insertAll before = (grown, .ok before.length) ∧
      grown.insert sample = (grown, .error failure)
  fetch : ∀ metric filter start stop, ∃ fetched,
    store.fetch metric filter start stop = .ok fetched ∧
    (fetched.Pairwise fun a b => compare a.key b.key = .lt) ∧
    ∀ series, series ∈ fetched ↔ contents.Answers metric filter start stop series

theorem run_refines (limit : Nat) (operations : List (Operation V)) :
    Refines limit (run limit operations).1 (run limit operations).2 := by
  have represents := represents_run limit operations
  refine ⟨represents, represents.size_eq, represents.insert_isOk_iff, ?_, ?_, ?_, ?_⟩
  · intro sample left failure refused
    exact eq_of_insert_refused refused
  · intro samples grown count stored
    exact insertAll_stored stored
  · intro samples grown failure refused
    exact insertAll_refused refused
  · intro metric filter start stop
    exact ⟨_, fetch_eq_select _ metric filter start stop,
      sorted_select represents.keyed metric filter start stop,
      represents.mem_select_iff metric filter start stop⟩

end Store

end SeriesQuery
