import Mathlib
import SeriesQuery.Proofs.Bucket.Prepared
import SeriesQuery.Proofs.Engine.Shape
import SeriesQuery.Proofs.Grid.Words
/-!
What an engine counts. Main statement: after any requests its counters show what the calls add up
to, each call counted by what its plan looks at and no call counted that makes no plan.
-/
namespace SeriesQuery

open SortedMap

variable {V : Type} [Scalar V]

/-! Buckets that dip -/

namespace Bucket

/-- Whether a bucket counts less than the one before it. -/
def dips (buckets : List (Bucket V)) : Bool :=
  (buckets.zip buckets.tail).any fun (lower, upper) => decide (upper.count < lower.count)

theorem dips_cons_cons (lower upper : Bucket V) (rest : List (Bucket V)) :
    dips (lower :: upper :: rest) = (decide (upper.count < lower.count) || dips (upper :: rest)) :=
  rfl

theorem falls_cons {reached : V} {bucket : Bucket V} (level : ¬ bucket.count < reached)
    (rest : List (Bucket V)) : falls reached (bucket :: rest) = dips (bucket :: rest) := by
  induction rest generalizing reached bucket with
  | nil => simp [falls, dips, level]
  | cons next rest ih =>
      rw [falls, if_neg level, decide_eq_false level, Bool.false_or, dips_cons_cons]
      by_cases less : next.count < bucket.count
      · rw [falls, decide_eq_true less, Bool.true_or, Bool.true_or]
      · rw [ih less, decide_eq_false less, Bool.false_or]

theorem dips_ordered_nil : dips (ordered ([] : List (Bucket V))) = false := by
  simp [ordered, joinEqual, dips]

variable [Scalar.Ranked V]

theorem falls_neg_infinity (buckets : List (Bucket V)) :
    falls (-Scalar.infinity) buckets = dips buckets := by
  cases buckets with
  | nil => rfl
  | cons bucket rest =>
      refine falls_cons (fun less => ?_) rest
      have below := Scalar.Ranked.lt_iff.mp less
      exact (Scalar.Ranked.neg_infinity_le below.1.1).not_gt below.2

/-- Where there are no buckets, nothing dips. -/
theorem any_areInconsistent (buckets : List (Bucket V)) :
    (unlessNil buckets).any areInconsistent = dips (ordered buckets) := by
  cases buckets with
  | nil => exact dips_ordered_nil.symm
  | cons bucket rest => exact falls_neg_infinity (ordered (bucket :: rest))

/-- Among numbers nothing dips just when no count is below an earlier one. -/
theorem dips_eq_false_iff {buckets : List (Bucket V)} (counted : Counted buckets) :
    dips buckets = false ↔ (buckets.map (·.count)).Pairwise (· ≤ ·) := by
  rw [← falls_neg_infinity, falls_eq_false_iff Scalar.Ranked.number_neg_infinity counted, Steady,
    List.pairwise_cons, List.pairwise_map, List.pairwise_map]
  constructor
  · rintro ⟨-, steady⟩
    exact steady.imp_of_mem fun first second le =>
      Scalar.Ranked.le_iff.mpr ⟨⟨counted _ first, counted _ second⟩, le⟩
  · intro steady
    refine ⟨fun count member => ?_, steady.imp fun le => (Scalar.Ranked.le_iff.mp le).2⟩
    rcases List.mem_map.mp member with ⟨bucket, held, rfl⟩
    exact Scalar.Ranked.neg_infinity_le (counted bucket held)

end Bucket

/-! What a plan comes across -/

namespace Plan

instance (plan : Plan V) : Decidable plan.ReadsBuckets := decidable_of_iff _ bucketQuery?_isSome_iff

/-- Whether series are of one type that the plan accepts. -/
def accepts (plan : Plan V) (series : List (Series V)) : Bool :=
  MetricType.all.any fun type =>
    series.all (fun member => member.type == type) && (plan.checkType type).isOk

/-- The series that a plan goes through: those that it looks at, if it accepts them. -/
def scanned (plan : Plan V) (store : Store V) : List (Series V) :=
  if plan.accepts (plan.select store) then plan.select store else []

/-- The groups and the steps of a grid where the joined buckets of the group dip. -/
def dippingSteps (grid : Grid) (perBucket : List (Curve V)) : List (Labels × Int) :=
  (perBucket.map fun curve => curve.labels.erase boundLabel).dedup.flatMap fun labels =>
    (grid.boundaries.filter fun boundary =>
      Bucket.dips (Bucket.ordered (bucketsAt perBucket labels boundary))).map (labels, ·)

/-- The buckets of the series that a run goes through. -/
def bucketsOf (plan : Plan V) (engine : Engine V) (schedule : Schedule) : List (Curve V) :=
  plan.reduced .histogram
    (schedule.arrive engine.settings.workers (plan.scanned engine.store)) schedule.listing

/-- The steps where buckets dip, for a plan that asks for a threshold or a percentile. -/
def inconsistentSteps (plan : Plan V) (engine : Engine V) (schedule : Schedule) :
    List (Labels × Int) :=
  if plan.ReadsBuckets then dippingSteps plan.grid (plan.bucketsOf engine schedule) else []

theorem accepts_eq_true_iff {plan : Plan V} {series : List (Series V)} :
    plan.accepts series = true ↔
      ∃ type, (∀ member ∈ series, member.type = type) ∧ plan.checkType type = .ok () := by
  have every (type : MetricType) : type ∈ MetricType.all := by
    cases type <;> decide
  have checked (type : MetricType) :
      (plan.checkType type).isOk = true ↔ plan.checkType type = .ok () := by
    cases plan.checkType type <;> simp [Except.isOk, Except.toBool]
  simp only [accepts, List.any_eq_true, Bool.and_eq_true, List.all_eq_true, beq_iff_eq, checked]
  exact exists_congr fun type => and_iff_right (every type)

theorem nodup_dippingSteps (grid : Grid) (curves : List (Curve V)) :
    (dippingSteps grid curves).Nodup := by
  refine List.nodup_flatMap.mpr ⟨fun labels _ => ?_, ?_⟩
  · refine List.Nodup.map (fun _ _ same => (Prod.mk.inj same).2) (List.Nodup.filter _ ?_)
    exact grid.increasing_boundaries.imp Int.ne_of_lt
  · refine (List.nodup_dedup _).imp fun apart pair first second => ?_
    rcases List.mem_map.mp first with ⟨_, -, rfl⟩
    rcases List.mem_map.mp second with ⟨_, -, same⟩
    exact apart (Prod.mk.inj same).1.symm

theorem mem_dippingSteps {curves : List (Curve V)} {grid : Grid}
    (drawn : Curve.OnGrid curves grid) {labels : Labels} {boundary : Int} :
    (labels, boundary) ∈ dippingSteps grid curves ↔
      Bucket.dips (Bucket.ordered (bucketsAt curves labels boundary)) = true := by
  constructor
  · intro member
    rcases List.mem_flatMap.mp member with ⟨_, -, held⟩
    rcases List.mem_map.mp held with ⟨_, kept, same⟩
    cases same
    exact (List.mem_filter.mp kept).2
  · intro dips
    have some' : bucketsAt curves labels boundary ≠ [] := by
      intro nothing
      rw [nothing, Bucket.dips_ordered_nil] at dips
      cases dips
    have group : labels ∈ (curves.map fun curve => curve.labels.erase boundLabel).dedup := by
      rcases List.exists_mem_of_ne_nil _ some' with ⟨bucket, held⟩
      rcases List.mem_filterMap.mp held with ⟨curve, inside, -⟩
      rcases List.mem_filter.mp inside with ⟨member, same⟩
      exact List.mem_dedup.mpr (List.mem_map.mpr ⟨curve, member, of_decide_eq_true same⟩)
    refine List.mem_flatMap.mpr ⟨labels, group, List.mem_map.mpr ⟨boundary, ?_, rfl⟩⟩
    exact List.mem_filter.mpr ⟨mem_boundaries_of_bucketsAt drawn labels some', dips⟩

theorem arrive_scanned {plan : Plan V} {engine : Engine V} (schedule : Schedule)
    (accepted : plan.accepts (plan.select engine.store) = true) :
    schedule.arrive engine.settings.workers (plan.scanned engine.store) =
      (engine.arrivals plan schedule).map plan.cut := by
  rw [scanned, if_pos accepted]
  exact Engine.arrive_select

theorem bucketsOf_of_refuses {plan : Plan V} {engine : Engine V} (schedule : Schedule)
    (refused : plan.accepts (plan.select engine.store) = false) :
    plan.bucketsOf engine schedule = [] := by
  have nothing : schedule.arrive engine.settings.workers (plan.scanned engine.store) = [] := by
    rw [scanned, refused]
    exact (schedule.arrive_perm _ _).eq_nil
  rw [bucketsOf, nothing, reduced_nil]

theorem bucketsOf_onGrid (plan : Plan V) (engine : Engine V) (schedule : Schedule) :
    Curve.OnGrid (plan.bucketsOf engine schedule) plan.grid := by
  cases accepted : plan.accepts (plan.select engine.store) with
  | true =>
      rw [bucketsOf, arrive_scanned schedule accepted]
      exact reduced_onGrid plan.checkType_histogram _ _
  | false =>
      rw [bucketsOf_of_refuses schedule accepted]
      exact ⟨nofun, nofun, List.nodup_nil⟩

theorem inconsistentSteps_of_refuses {plan : Plan V} {engine : Engine V} (schedule : Schedule)
    (refused : plan.accepts (plan.select engine.store) = false) :
    plan.inconsistentSteps engine schedule = [] := by
  rw [inconsistentSteps, bucketsOf_of_refuses schedule refused]
  split <;> rfl

/-- The steps that a plan counts, each of them once. -/
theorem inconsistentSteps_counted (plan : Plan V) (engine : Engine V) (schedule : Schedule) :
    (plan.inconsistentSteps engine schedule).Nodup ∧
      ∀ labels boundary, (labels, boundary) ∈ plan.inconsistentSteps engine schedule ↔
        plan.ReadsBuckets ∧ Bucket.dips (Bucket.ordered
          (bucketsAt (plan.bucketsOf engine schedule) labels boundary)) = true := by
  rw [inconsistentSteps]
  split
  · rename_i reads
    refine ⟨nodup_dippingSteps _ _, fun labels boundary => ?_⟩
    rw [mem_dippingSteps (plan.bucketsOf_onGrid engine schedule), and_iff_right reads]
  · rename_i plain
    exact ⟨List.nodup_nil, fun labels boundary => ⟨nofun, fun both => absurd both.1 plain⟩⟩

section Inconsistent

variable [Scalar.Ranked V] {curves : List (Curve V)} {grid : Grid}
  (drawn : Curve.OnGrid curves grid)

include drawn

/-- The steps of one group that are counted are those where its buckets dip. -/
theorem inconsistent_evaluateGroup (labels : Labels) (query : BucketQuery V) :
    (Bucket.evaluateGroup labels
      (curves.filter fun curve => curve.labels.erase boundLabel = labels) query).2 =
        grid.boundaries.countP fun boundary =>
          Bucket.dips (Bucket.ordered (bucketsAt curves labels boundary)) := by
  have distinct : grid.boundaries.Nodup := grid.increasing_boundaries.imp Int.ne_of_lt
  have gathered (boundary : Int) : (Bucket.gather
      (curves.filter fun curve => curve.labels.erase boundLabel = labels)).get? boundary =
        unlessNil (bucketsAt curves labels boundary) := Bucket.get?_gather _ _
  rw [Bucket.evaluateGroup]
  dsimp only
  rw [countP_values distinct fun boundary there => ?_]
  · simp only [gathered, Bucket.any_areInconsistent]
  · rw [gathered, isSome_unlessNil] at there
    exact mem_boundaries_of_bucketsAt drawn labels there

theorem inconsistent_collapse (query : BucketQuery V) :
    (collapse curves query).2 = (dippingSteps grid curves).length := by
  have keys : (byGroup curves).keys.Perm
      (curves.map fun curve => curve.labels.erase boundLabel).dedup := by
    refine (List.perm_ext_iff_of_nodup (keys_nodup _) (List.nodup_dedup _)).mpr fun labels => ?_
    rw [mem_keys, get?_byGroup, isSome_unlessNil, List.mem_dedup, List.mem_map, Ne,
      List.filter_eq_nil_iff]
    simp
  have groups : (byGroup curves).entries.map (fun group =>
      (Bucket.evaluateGroup group.1 group.2 query).2) =
        (byGroup curves).keys.map fun labels => grid.boundaries.countP fun boundary =>
          Bucket.dips (Bucket.ordered (bucketsAt curves labels boundary)) := by
    rw [SortedMap.keys, List.map_map]
    refine List.map_congr_left fun group member => ?_
    have found := get?_eq_some_iff.mpr member
    rw [get?_byGroup, unlessNil_eq_some_iff] at found
    rw [← found.1]
    exact inconsistent_evaluateGroup drawn group.1 query
  calc (collapse curves query).2 = ((byGroup curves).entries.map fun group =>
          (Bucket.evaluateGroup group.1 group.2 query).2).sum := by
        rw [collapse, List.sum_eq_foldl]
        simp only [List.map_map]
        rfl
    _ = ((curves.map fun curve => curve.labels.erase boundLabel).dedup.map fun labels =>
          grid.boundaries.countP fun boundary =>
            Bucket.dips (Bucket.ordered (bucketsAt curves labels boundary))).sum := by
        rw [groups, (keys.map _).sum_nat]
    _ = (dippingSteps grid curves).length := by
        simp only [dippingSteps, List.length_flatMap, List.length_map, List.countP_eq_length_filter]

end Inconsistent

theorem inconsistent_answer [Scalar.Ranked V] {plan : Plan V} {type : MetricType}
    (checked : plan.checkType type = .ok ()) {engine : Engine V} (schedule : Schedule)
    (accepted : plan.accepts (plan.select engine.store) = true) :
    (plan.answer type ((engine.arrivals plan schedule).map plan.cut) schedule.listing).2 =
      (plan.inconsistentSteps engine schedule).length := by
  rw [inconsistentSteps, bucketsOf, arrive_scanned schedule accepted]
  by_cases reads : plan.ReadsBuckets
  · obtain rfl : type = .histogram :=
      Classical.byContradiction fun scalar => not_readsBuckets_of_checkType scalar checked reads
    rcases Option.isSome_iff_exists.mp (bucketQuery?_isSome_iff.mpr reads) with ⟨query, asked⟩
    have collapsed := inconsistent_collapse
      (reduced_onGrid checked (engine.arrivals plan schedule) schedule.listing) query
    simpa [reads, answer, asked] using collapsed
  · have nothing : plan.bucketQuery? = none := by
      rwa [← bucketQuery?_isSome_iff, Bool.not_eq_true, Option.isSome_eq_false_iff,
        Option.isNone_iff_eq_none] at reads
    cases type <;> simp [reads, answer, nothing]

end Plan

/-! What calls add up to -/

/-- A request, how it was run, and what was answered to it. -/
structure Call (V : Type) where
  request : Request V
  schedule : Schedule
  result : Except Failure (List (Curve V))

/-- What calls add to each counter. -/
structure Tally where
  queries : Nat := 0
  failures : Nat := 0
  seriesScanned : Nat := 0
  restarts : Nat := 0
  unanchored : Nat := 0
  inconsistentSteps : Nat := 0
  deriving DecidableEq

namespace Tally

instance : Add Tally where
  add a b :=
    { queries := a.queries + b.queries
      failures := a.failures + b.failures
      seriesScanned := a.seriesScanned + b.seriesScanned
      restarts := a.restarts + b.restarts
      unanchored := a.unanchored + b.unanchored
      inconsistentSteps := a.inconsistentSteps + b.inconsistentSteps }

/-- What a run of a plan comes across. -/
def ofPlan (plan : Plan V) (engine : Engine V) (schedule : Schedule) : Tally :=
  let increments := (plan.scanned engine.store).map fun series => series.increments plan.grid.start
  { seriesScanned := increments.length
    restarts := (increments.map (·.restarts)).sum
    unanchored := increments.countP (·.unanchored)
    inconsistentSteps := (plan.inconsistentSteps engine schedule).length }

/-- What one call adds: nothing without a plan. -/
def ofCall (engine : Engine V) (call : Call V) : Tally :=
  match engine.plan call.request with
  | .error _ => {}
  | .ok plan =>
    { ofPlan plan engine call.schedule with
      queries := 1, failures := if call.result.isOk then 0 else 1 }

def ofCalls (engine : Engine V) (calls : List (Call V)) : Tally :=
  calls.foldr (fun call total => ofCall engine call + total) {}

theorem ofCall_eq {engine : Engine V} {plan : Plan V} (call : Call V)
    (planned : engine.plan call.request = .ok plan) :
    ofCall engine call = { ofPlan plan engine call.schedule with
      queries := 1, failures := if call.result.isOk then 0 else 1 } := by
  rw [ofCall, planned]

theorem ofPlan_of_refuses {plan : Plan V} {engine : Engine V} (schedule : Schedule)
    (refused : plan.accepts (plan.select engine.store) = false) :
    ofPlan plan engine schedule = {} := by
  have nothing : plan.scanned engine.store = [] := by
    rw [Plan.scanned, refused]
    rfl
  rw [ofPlan, nothing, Plan.inconsistentSteps_of_refuses schedule refused]
  rfl

theorem ofCalls_cons (engine : Engine V) (call : Call V) (calls : List (Call V)) :
    ofCalls engine (call :: calls) = ofCall engine call + ofCalls engine calls := rfl

/-- What calls add does not depend on what was counted before them. -/
theorem ofCalls_counters (engine : Engine V) (counters : Counters) (calls : List (Call V)) :
    ofCalls { engine with counters } calls = ofCalls engine calls := by
  have each (call : Call V) : ofCall { engine with counters } call = ofCall engine call := rfl
  simp only [ofCalls, each]

@[simp] theorem add_queries (a b : Tally) : (a + b).queries = a.queries + b.queries := rfl

@[simp] theorem add_failures (a b : Tally) : (a + b).failures = a.failures + b.failures := rfl

/-- Whether a call made a plan. -/
def planned (engine : Engine V) (call : Call V) : Bool := (engine.plan call.request).isOk

theorem queries_ofCalls (engine : Engine V) (calls : List (Call V)) :
    (ofCalls engine calls).queries = calls.countP (planned engine) := by
  induction calls with
  | nil => rfl
  | cons call rest ih =>
      rw [ofCalls_cons, add_queries, ih, List.countP_cons, Nat.add_comm, ofCall, planned]
      cases engine.plan call.request <;> rfl

theorem failures_ofCalls (engine : Engine V) (calls : List (Call V)) :
    (ofCalls engine calls).failures =
      calls.countP fun call => planned engine call && !call.result.isOk := by
  induction calls with
  | nil => rfl
  | cons call rest ih =>
      rw [ofCalls_cons, add_failures, ih, List.countP_cons, Nat.add_comm, ofCall, planned]
      cases engine.plan call.request with
      | error failure => rfl
      | ok plan => cases call.result <;> rfl

/-- Whether every number has a value in 64 bits without a sign. -/
structure Fits (tally : Tally) : Prop where
  queries : tally.queries < 2 ^ 64
  failures : tally.failures < 2 ^ 64
  seriesScanned : tally.seriesScanned < 2 ^ 64
  restarts : tally.restarts < 2 ^ 64
  unanchored : tally.unanchored < 2 ^ 64
  inconsistentSteps : tally.inconsistentSteps < 2 ^ 64

end Tally

namespace Counters

def plus (counters : Counters) (tally : Tally) : Counters where
  queries := counters.queries + .ofNat tally.queries
  failures := counters.failures + .ofNat tally.failures
  timeouts := counters.timeouts
  seriesScanned := counters.seriesScanned + .ofNat tally.seriesScanned
  restarts := counters.restarts + .ofNat tally.restarts
  unanchored := counters.unanchored + .ofNat tally.unanchored
  inconsistentSteps := counters.inconsistentSteps + .ofNat tally.inconsistentSteps

@[simp] theorem plus_nothing (counters : Counters) : counters.plus {} = counters := by
  simp [plus]

theorem plus_add (counters : Counters) (a b : Tally) :
    counters.plus (a + b) = (counters.plus a).plus b := by
  have sum : a + b = ⟨a.queries + b.queries, a.failures + b.failures,
    a.seriesScanned + b.seriesScanned, a.restarts + b.restarts, a.unanchored + b.unanchored,
    a.inconsistentSteps + b.inconsistentSteps⟩ := rfl
  simp only [sum, plus, UInt64.ofNat_add, UInt64.add_assoc]

/-- Whether counters show a tally, and that no time has run out. -/
structure Shows (counters : Counters) (tally : Tally) : Prop where
  queries : counters.queries.toNat = tally.queries
  failures : counters.failures.toNat = tally.failures
  timeouts : counters.timeouts = 0
  seriesScanned : counters.seriesScanned.toNat = tally.seriesScanned
  restarts : counters.restarts.toNat = tally.restarts
  unanchored : counters.unanchored.toNat = tally.unanchored
  inconsistentSteps : counters.inconsistentSteps.toNat = tally.inconsistentSteps

theorem shows_plus {tally : Tally} (fits : tally.Fits) : Shows (plus {} tally) tally := by
  have shown {number : Nat} (small : number < 2 ^ 64) :
      (0 + UInt64.ofNat number).toNat = number := by
    rw [UInt64.zero_add, UInt64.toNat_ofNat', Nat.mod_eq_of_lt small]
  exact ⟨shown fits.queries, shown fits.failures, rfl, shown fits.seriesScanned,
    shown fits.restarts, shown fits.unanchored, shown fits.inconsistentSteps⟩

end Counters

namespace Engine

/-- The engine after requests one after another, with every call. -/
def run (engine : Engine V) : List (Request V × Schedule) → Engine V × List (Call V)
  | [] => (engine, [])
  | (request, schedule) :: rest =>
    let (next, result) := engine.query request schedule
    let (last, calls) := next.run rest
    (last, ⟨request, schedule, result⟩ :: calls)

theorem execute_of_accepts [Scalar.Ranked V] {plan : Plan V} {engine : Engine V}
    (accepted : plan.accepts (plan.select engine.store) = true) (counters : Counters)
    (schedule : Schedule) :
    (∃ curves, (engine.execute counters plan schedule).2 = .ok curves) ∧
      (engine.execute counters plan schedule).1 =
        counters.plus (.ofPlan plan engine schedule) := by
  rcases Plan.accepts_eq_true_iff.mp accepted with ⟨type, uniform, checked⟩
  have common := Plan.commonType_eq plan.metric uniform
  have inconsistent := Plan.inconsistent_answer checked schedule accepted
  have scanned : plan.scanned engine.store = plan.select engine.store := if_pos accepted
  rw [Tally.ofPlan, scanned]
  rw [← arrive_select] at inconsistent
  simp only [execute, Plan.fetch_eq_select]
  cases selected : plan.select engine.store with
  | nil =>
      rw [selected, (schedule.arrive_perm _ []).eq_nil, Plan.answer_nil] at inconsistent
      rw [← inconsistent]
      exact ⟨⟨[], rfl⟩, counters.plus_nothing.symm⟩
  | cons first rest =>
      rw [selected, List.head?_cons, Option.map_some] at common
      rw [selected] at inconsistent
      simp only [common, checked]
      refine ⟨⟨_, rfl⟩, ?_⟩
      rw [inconsistent]
      simp [count, Counters.plus, Counters.addSeries, Counters.addRestarts, Counters.addUnanchored,
        Counters.addInconsistentSteps, List.sum_eq_foldl]

/-- A plan that does not accept what it looks at is counted as a failure and nowhere else. -/
theorem execute_of_refuses {plan : Plan V} {engine : Engine V}
    (refused : plan.accepts (plan.select engine.store) = false) (counters : Counters)
    (schedule : Schedule) :
    (∃ fault, (engine.execute counters plan schedule).2 = .error (.query fault)) ∧
      (engine.execute counters plan schedule).1 = counters.addFailure := by
  have none' (type : MetricType)
      (uniform : ∀ member ∈ plan.select engine.store, member.type = type) :
      plan.checkType type ≠ .ok () := by
    intro checked
    rw [Plan.accepts_eq_true_iff.mpr ⟨type, uniform, checked⟩] at refused
    cases refused
  simp only [execute, Plan.fetch_eq_select]
  cases common : Plan.commonType plan.metric (plan.select engine.store) with
  | error fault => exact ⟨⟨fault, rfl⟩, rfl⟩
  | ok found =>
      have uniform := Plan.type_of_commonType common
      cases found with
      | none =>
          refine absurd plan.checkType_histogram (none' .histogram fun member held => ?_)
          cases uniform member held
      | some type =>
          cases checked : plan.checkType type with
          | error fault =>
              simp only [checked]
              exact ⟨⟨fault, rfl⟩, trivial⟩
          | ok _ =>
              exact absurd checked (none' type fun member held =>
                (Option.some.inj (uniform member held)).symm)

/-- One call adds its tally to the counters and changes nothing else. -/
theorem query_counts [Scalar.Ranked V] (engine : Engine V) (request : Request V)
    (schedule : Schedule) :
    (engine.query request schedule).1 = { engine with
      counters := engine.counters.plus
        (.ofCall engine ⟨request, schedule, (engine.query request schedule).2⟩) } := by
  cases planned : engine.plan request with
  | error failure => simp [query, planned, Tally.ofCall]
  | ok made =>
      rw [Tally.ofCall_eq ⟨request, schedule, (engine.query request schedule).2⟩ planned,
        query_eq_execute planned]
      dsimp only
      cases accepted : made.accepts (made.select engine.store) with
      | true =>
          rcases execute_of_accepts accepted engine.counters.addQuery schedule with
            ⟨⟨curves, answered⟩, counted⟩
          rw [answered, counted]
          simp [Tally.ofPlan, Counters.plus, Counters.addQuery, Except.isOk, Except.toBool]
      | false =>
          rcases execute_of_refuses accepted engine.counters.addQuery schedule with
            ⟨⟨fault, failed⟩, counted⟩
          rw [failed, counted, Tally.ofPlan_of_refuses schedule accepted]
          simp [Counters.plus, Counters.addQuery, Counters.addFailure, Except.isOk, Except.toBool]

theorem run_counts [Scalar.Ranked V] (engine : Engine V)
    (requests : List (Request V × Schedule)) :
    (engine.run requests).1 = { engine with
      counters := engine.counters.plus (.ofCalls engine (engine.run requests).2) } := by
  induction requests generalizing engine with
  | nil => simp [run, Tally.ofCalls]
  | cons request rest ih =>
      rw [run]
      dsimp only
      rw [Tally.ofCalls_cons, Counters.plus_add, ih, query_counts, Tally.ofCalls_counters]

theorem requests_run (engine : Engine V) (requests : List (Request V × Schedule)) :
    (engine.run requests).2.map (fun call => (call.request, call.schedule)) = requests := by
  induction requests generalizing engine with
  | nil => rfl
  | cons request rest ih =>
      rw [run]
      dsimp only
      rw [List.map_cons, ih]

/-- What an engine shows after calls, what that counts, and what a call that fails changes. -/
structure Accounts (start engine : Engine V) (calls : List (Call V)) : Prop where
  shown : engine.counters.Shows (.ofCalls start calls)
  queries : engine.counters.queries.toNat = calls.countP (Tally.planned start)
  failures : engine.counters.failures.toNat =
    calls.countP fun call => Tally.planned start call && !call.result.isOk
  fewer : engine.counters.failures ≤ engine.counters.queries
  /-- Inconsistent steps are counted once for every group. -/
  steps : ∀ (plan : Plan V) (schedule : Schedule),
    (plan.inconsistentSteps start schedule).Nodup ∧
    ∀ labels boundary, (labels, boundary) ∈ plan.inconsistentSteps start schedule ↔
      plan.ReadsBuckets ∧ Bucket.dips (Bucket.ordered (Plan.bucketsAt
        (plan.bucketsOf start schedule) labels boundary)) = true
  dips : ∀ buckets : List (Bucket V), Bucket.Counted buckets →
    (Bucket.dips buckets = false ↔ (buckets.map (·.count)).Pairwise (· ≤ ·))
  unplanned : ∀ request schedule failure, engine.plan request = .error failure →
    (engine.query request schedule).1.counters = engine.counters
  refused : ∀ request schedule plan, engine.plan request = .ok plan →
    plan.accepts (plan.select start.store) = false →
      (∃ fault, (engine.query request schedule).2 = .error (.query fault)) ∧
        (engine.query request schedule).1.counters = { engine.counters with
          queries := engine.counters.queries + 1, failures := engine.counters.failures + 1 }

/-- After any requests the counters show what the calls add up to. -/
theorem run_accounts [Scalar.Ranked V] {store : Store V} {settings : EngineSettings}
    {patterns : PatternEngine} {requests : List (Request V × Schedule)} {engine : Engine V}
    {calls : List (Call V)}
    (ran : (ofStore store settings patterns).run requests = (engine, calls))
    (fits : (Tally.ofCalls (ofStore store settings patterns) calls).Fits) :
    calls.map (fun call => (call.request, call.schedule)) = requests ∧
      Accounts (ofStore store settings patterns) engine calls := by
  have after : engine = { ofStore store settings patterns with
      counters := .plus {} (.ofCalls (ofStore store settings patterns) calls) } := by
    have counted := run_counts (ofStore store settings patterns) requests
    rwa [ran] at counted
  have asked := requests_run (ofStore store settings patterns) requests
  rw [ran] at asked
  have shown : engine.counters.Shows (.ofCalls (ofStore store settings patterns) calls) := by
    rw [after]
    exact Counters.shows_plus fits
  have queries := shown.queries.trans (Tally.queries_ofCalls _ calls)
  have failures := shown.failures.trans (Tally.failures_ofCalls _ calls)
  refine ⟨asked, shown, queries, failures, ?fewer, ?steps, ?dips, ?unplanned, ?refused⟩
  case fewer =>
    rw [UInt64.le_iff_toNat_le, queries, failures]
    exact List.countP_mono_left fun call _ failed => (Bool.and_eq_true_iff.mp failed).1
  case steps => exact fun plan => plan.inconsistentSteps_counted _
  case dips => exact fun buckets => Bucket.dips_eq_false_iff
  case unplanned =>
    intro request schedule failure unplanned
    simp only [query, unplanned]
  case refused =>
    intro request schedule plan planned refused
    have same : engine.store = store := by
      rw [after]
      rfl
    have refused : plan.accepts (plan.select engine.store) = false := by rwa [same]
    rw [query_eq_execute planned]
    exact execute_of_refuses refused engine.counters.addQuery schedule

/-- A counter that restarts, one that is seen once, and a histogram whose buckets dip at a step. -/
def traffic : Store Exact :=
  let host (name : String) : SeriesKey := ⟨"hits", .ofList [("host", name)]⟩
  let bucket (bound : String) : SeriesKey := ⟨"latency", .ofList [("le", bound)]⟩
  ((Store.empty 10).insertAll [
    ⟨host "a", .sum, .cumulative, -30000, .finite 5⟩, ⟨host "a", .sum, .cumulative, 0, .finite 3⟩,
    ⟨host "b", .sum, .cumulative, 30000, .finite 4⟩,
    ⟨bucket "1", .histogram, .delta, 0, .finite 6⟩, ⟨bucket "2", .histogram, .delta, 0, .finite 4⟩,
    ⟨bucket "1", .histogram, .delta, 60000, .finite 1⟩]).1

/-- One request that makes no plan, and one whose plan does not accept the counters. -/
def inspections : List (Request Exact × Schedule) :=
  [((Request.plain "latency" 0 120000 60).against ⟨.finite 1, .atMost⟩, {}),
    (.plain "hits" 0 120000 0, {}),
    ((Request.plain "hits" 0 120000 60).overSpace (.percentile 50), {}),
    ((Request.plain "hits" 0 120000 60).overTime .increase,
      { arrival := fun key => if key.labels.get? "host" = some "b" then 0 else 1 })]

theorem run_accounts_traffic :
    ∃ engine calls, (withWorkers 0 traffic).run inspections = (engine, calls) ∧
      (Tally.ofCalls (withWorkers 0 traffic) calls).Fits ∧
      Tally.ofCalls (withWorkers 0 traffic) calls = ⟨3, 1, 4, 1, 1, 1⟩ ∧
      calls.map (fun call => (call.request, call.schedule)) = inspections ∧
      Accounts (withWorkers 0 traffic) engine calls := by
  have tally : Tally.ofCalls (withWorkers 0 traffic)
      ((withWorkers 0 traffic).run inspections).2 = ⟨3, 1, 4, 1, 1, 1⟩ := by
    cbv
  have fits : (Tally.ofCalls (withWorkers 0 traffic)
      ((withWorkers 0 traffic).run inspections).2).Fits := by
    rw [tally]
    exact ⟨by decide, by decide, by decide, by decide, by decide, by decide⟩
  exact ⟨_, _, rfl, fits, tally, run_accounts rfl fits⟩

end Engine

end SeriesQuery
