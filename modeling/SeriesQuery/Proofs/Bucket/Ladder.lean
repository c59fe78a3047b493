import Mathlib.Data.List.Permutation
import SeriesQuery.Proofs.Search
import SeriesQuery.Proofs.Bucket.Prepared
/-!
Prepared buckets without rounding: a ladder whose rungs rise in bound and do not fall in count, with
a count at its top for what lies beyond every finite bound.
-/
namespace SeriesQuery.Bucket

/-- In an ordered list each entry is the last one or comes before it. -/
theorem eq_or_rel_last {α : Type} {relation : α → α → Prop} {front : List α} {last entry : α}
    (ordered : (front ++ [last]).Pairwise relation) (member : entry ∈ front ++ [last]) :
    entry = last ∨ relation entry last := by
  rcases List.mem_append.mp member with early | same
  · exact .inr ((List.pairwise_append.mp ordered).2.2 entry early last List.mem_cons_self)
  · exact .inl (List.mem_singleton.mp same)

/-- One bound after another: a larger one, or one that is no number. -/
def Above (a b : Exact) : Prop := a < b ∨ b = .notANumber

theorem above_iff {a b : Exact} : Above a b ↔ Exact.isBelow a b = true ∨ b.isNaN = true := by
  have undefined : b = .notANumber ↔ b.isNaN = true := by cases b <;> simp [Exact.isNaN]
  rw [Above, undefined]
  exact Iff.rfl

theorem above_of_ne_gt {a b : Exact} (ordered : (Scalar.compareTotal a b != .gt) = true)
    (apart : ¬ (b == a) = true) : Above a b := by
  change (Exact.compareTotal a b != .gt) = true at ordered
  change ¬ (!b.isNaN && decide (b = a)) = true at apart
  rw [above_iff]
  rw [Exact.compareTotal_eq] at ordered
  cases a <;> cases b <;> grind [Exact.isBelow, Exact.isNaN]

theorem Above.trans_ne_gt {a b c : Exact} (above : Above a b)
    (ordered : (Scalar.compareTotal b c != .gt) = true) : Above a c := by
  change (Exact.compareTotal b c != .gt) = true at ordered
  rw [above_iff] at above ⊢
  rw [Exact.compareTotal_eq] at ordered
  cases a <;> cases b <;> cases c <;> grind [Exact.isBelow, Exact.isNaN]

theorem above_joinOnto {kept : Bucket Exact} {rest : List (Bucket Exact)}
    (sorted : (kept :: rest).Pairwise fun a b =>
      (Scalar.compareTotal a.bound b.bound != .gt) = true) :
    (joinOnto kept rest).Pairwise fun a b => Above a.bound b.bound :=
  pairwise_joinOnto above_of_ne_gt Above.trans_ne_gt sorted

theorem above_prepare (buckets : List (Bucket Exact)) :
    ((prepare buckets).map (·.bound)).Pairwise Above := by
  have sorted : (buckets.mergeSort fun a b => Scalar.compareTotal a.bound b.bound != .gt).Pairwise
      fun a b => (Scalar.compareTotal a.bound b.bound != .gt) = true :=
    List.pairwise_mergeSort
      (fun a b c => ne_gt_trans Scalar.compareTotal a.bound b.bound c.bound)
      (fun a b => ne_gt_total Scalar.compareTotal a.bound b.bound) buckets
  rw [prepare, bounds_raise]
  apply List.pairwise_map.mpr
  unfold ordered
  cases held : buckets.mergeSort fun a b => Scalar.compareTotal a.bound b.bound != .gt with
  | nil => exact .nil
  | cons first rest => exact above_joinOnto (held ▸ sorted)

/-- The bucket with the largest finite bound. -/
structure LastFinite (buckets : List (Bucket Exact)) (last : Bucket Exact) : Prop where
  member : last ∈ buckets
  finite : Scalar.isFinite last.bound = true
  largest : ∀ bucket ∈ buckets, Scalar.isFinite bucket.bound = true → bucket.bound ≤ last.bound

/-- Buckets as a histogram has them: counts of observations up to finite bounds, or up to none. -/
structure Proper (buckets : List (Bucket Exact)) : Prop where
  count : ∀ bucket ∈ buckets, ∃ count : Rat, 0 ≤ count ∧ bucket.count = .finite count
  bound : ∀ bucket ∈ buckets,
    (∃ bound : Rat, bucket.bound = .finite bound) ∨ bucket.bound = .infinite false

/-- A bucket of two rational numbers. -/
def exact (rung : Bucket Rat) : Bucket Exact := ⟨.finite rung.bound, .finite rung.count⟩

@[simp] theorem exact_bound (rung : Bucket Rat) : (exact rung).bound = .finite rung.bound := rfl

@[simp] theorem exact_count (rung : Bucket Rat) : (exact rung).count = .finite rung.count := rfl

/-- The bucket of all observations. -/
def unbounded (count : Rat) : Bucket Exact := ⟨.infinite false, .finite count⟩

theorem eq_exact_or_unbounded {buckets : List (Bucket Exact)} (proper : Proper buckets)
    {bucket : Bucket Exact} (member : bucket ∈ buckets) :
    (∃ rung, bucket = exact rung) ∨ ∃ count, bucket = unbounded count := by
  rcases proper.count bucket member with ⟨count, -, counted⟩
  rcases proper.bound bucket member with ⟨bound, bounded⟩ | bounded
  · refine .inl ⟨⟨bound, count⟩, ?_⟩
    rw [exact, ← counted, ← bounded]
  · refine .inr ⟨count, ?_⟩
    rw [unbounded, ← counted, ← bounded]

theorem map_count (rungs : List (Bucket Rat)) (top : Option Rat) :
    (rungs.map exact ++ top.toList.map unbounded).map (·.count) =
      (rungs.map (·.count) ++ top.toList).map .finite := by
  simp only [List.map_append, List.map_map]
  rfl

theorem exists_rungs {buckets : List (Bucket Exact)} (proper : Proper buckets)
    (above : (buckets.map (·.bound)).Pairwise Above) :
    ∃ (rungs : List (Bucket Rat)) (top : Option Rat),
      buckets = rungs.map exact ++ top.toList.map unbounded := by
  induction buckets with
  | nil => exact ⟨[], none, rfl⟩
  | cons bucket rest ih =>
      rcases List.pairwise_cons.mp above with ⟨first, others⟩
      have properRest : Proper rest :=
        ⟨fun other member => proper.count other (List.mem_cons_of_mem _ member),
          fun other member => proper.bound other (List.mem_cons_of_mem _ member)⟩
      rcases eq_exact_or_unbounded proper List.mem_cons_self with ⟨rung, rfl⟩ | ⟨count, rfl⟩
      · rcases ih properRest others with ⟨rungs, top, rfl⟩
        exact ⟨rung :: rungs, top, rfl⟩
      · -- No bound comes after the positive infinity.
        obtain rfl : rest = [] := by
          cases rest with
          | nil => rfl
          | cons next rest =>
              have later := first next.bound List.mem_cons_self
              rw [above_iff] at later
              rcases eq_exact_or_unbounded properRest List.mem_cons_self with
                ⟨rung, rfl⟩ | ⟨other, rfl⟩ <;>
                simp [exact, unbounded, Exact.isBelow, Exact.isNaN] at later
        exact ⟨[], some count, rfl⟩

/-- An entry is a rung, with rungs before it, or the one beyond all rungs. -/
theorem split_exact {rungs : List (Bucket Rat)} {top : Option Rat}
    {front back : List (Bucket Exact)} {upper : Bucket Exact}
    (split : rungs.map exact ++ top.toList.map unbounded = front ++ upper :: back) :
    (∃ below rung above, rungs = below ++ rung :: above ∧ front = below.map exact ∧
        upper = exact rung) ∨
      (front = rungs.map exact ∧ ∃ count, top = some count ∧ upper = unbounded count) := by
  induction rungs generalizing front with
  | nil =>
      cases top with
      | none => cases front <;> cases split
      | some count =>
          cases front with
          | nil =>
              obtain ⟨rfl, -⟩ := List.cons_eq_cons.mp split
              exact .inr ⟨rfl, count, rfl, rfl⟩
          | cons first front =>
              have nothing := (List.cons_eq_cons.mp split).2
              cases front <;> cases nothing
  | cons rung rest ih =>
      cases front with
      | nil =>
          obtain ⟨rfl, -⟩ := List.cons_eq_cons.mp split
          exact .inl ⟨[], rung, rest, rfl, rfl, rfl⟩
      | cons first front =>
          obtain ⟨rfl, parted⟩ := List.cons_eq_cons.mp split
          rcases ih parted with ⟨below, upper, above, rfl, rfl, rfl⟩ | ⟨rfl, beyond⟩
          · exact .inl ⟨rung :: below, upper, above, rfl, rfl, rfl⟩
          · exact .inr ⟨rfl, beyond⟩

/-- The place of a bucket in the plane of bounds and counts. -/
def point (rung : Bucket Rat) : Rat × Rat := (rung.bound, rung.count)

/-- The empty bucket at zero, from which counting starts. -/
def ground : Bucket Rat := ⟨0, 0⟩

theorem before_exact (below : List (Bucket Rat)) (above : List (Bucket Exact)) :
    before (below.map exact ++ above) below.length = exact (below.getLastD ground) := by
  have same := before_append (below.map exact) above
  rw [List.length_map, List.getLast?_map] at same
  rw [same, List.getLastD_eq_getLast?]
  cases below.getLast? <;> rfl

/-- Rungs that rise in bound, and that do not fall in count from a rung below them on. -/
structure Climbs (lower : Bucket Rat) (rungs : List (Bucket Rat)) : Prop where
  bounds : rungs.Pairwise fun a b => a.bound < b.bound
  counts : (lower :: rungs).Pairwise fun a b => a.count ≤ b.count

namespace Climbs

variable {lower upper : Bucket Rat} {rest : List (Bucket Rat)}

theorem tail (climbs : Climbs lower (upper :: rest)) : Climbs upper rest :=
  ⟨(List.pairwise_cons.mp climbs.bounds).2, (List.pairwise_cons.mp climbs.counts).2⟩

theorem count_le (climbs : Climbs lower rest) {rung : Bucket Rat} (member : rung ∈ rest) :
    lower.count ≤ rung.count := (List.pairwise_cons.mp climbs.counts).1 rung member

theorem bound_lt (climbs : Climbs lower (upper :: rest)) {rung : Bucket Rat}
    (member : rung ∈ rest) : upper.bound < rung.bound :=
  (List.pairwise_cons.mp climbs.bounds).1 rung member

end Climbs

end SeriesQuery.Bucket

namespace SeriesQuery

/-- Rungs that rise in bound and do not fall in count, and perhaps a count above all of them. -/
structure Ladder where
  rungs : List (Bucket Rat)
  top : Option Rat
  bounds : rungs.Pairwise fun a b => a.bound < b.bound
  counts : (rungs.map (·.count) ++ top.toList).Pairwise (· ≤ ·)
  nonneg : ∀ count ∈ rungs.map (·.count) ++ top.toList, 0 ≤ count

namespace Ladder

open Bucket

variable (ladder : Ladder)

def levels : List Rat := ladder.rungs.map (·.count) ++ ladder.top.toList

def buckets : List (Bucket Exact) :=
  ladder.rungs.map exact ++ ladder.top.toList.map unbounded

theorem counts_buckets : ladder.buckets.map (·.count) = ladder.levels.map .finite :=
  map_count ladder.rungs ladder.top

def total : Rat := ladder.levels.getLastD 0

/-- Prepared buckets are those of a ladder. -/
theorem exists_buckets_eq {raw : List (Bucket Exact)} (proper : Proper (prepare raw)) :
    ∃ ladder : Ladder, ladder.buckets = prepare raw := by
  have above := above_prepare raw
  have counted : Counted (prepare raw) := by
    intro bucket member
    rcases proper.count bucket member with ⟨count, -, counted⟩
    rw [counted]
    rfl
  have steady := (List.pairwise_cons.mp
    (steady_raise Scalar.Ranked.number_neg_infinity (counted_of_raise counted))).2
  change ((prepare raw).map (·.count)).Pairwise _ at steady
  rcases exists_rungs proper above with ⟨rungs, top, split⟩
  have levels : (prepare raw).map (·.count) =
      (rungs.map (·.count) ++ top.toList).map .finite := by
    rw [split, map_count]
  refine ⟨⟨rungs, top, ?_, ?_, ?_⟩, split.symm⟩
  · rw [split, List.map_append, List.pairwise_append] at above
    rw [List.map_map, List.pairwise_map] at above
    refine above.1.imp ?_
    rintro a b (less | impossible)
    · exact Exact.finite_lt_iff.mp less
    · cases impossible
  · rw [levels, List.pairwise_map] at steady
    exact steady.imp fun le =>
      Exact.finite_le_iff.mp (Scalar.Ranked.le_iff.mpr ⟨⟨rfl, rfl⟩, le⟩)
  · intro count member
    have held : Exact.finite count ∈ (prepare raw).map (·.count) :=
      levels ▸ List.mem_map_of_mem member
    rcases List.mem_map.mp held with ⟨bucket, inside, same⟩
    rcases proper.count bucket inside with ⟨number, positive, counted⟩
    rw [counted] at same
    cases same
    exact positive

theorem mem_buckets {bucket : Bucket Exact} : bucket ∈ ladder.buckets ↔
    (∃ rung ∈ ladder.rungs, bucket = exact rung) ∨
      ∃ count, ladder.top = some count ∧ bucket = unbounded count := by
  rw [buckets, List.mem_append, List.mem_map, List.mem_map]
  simp only [Option.mem_toList, eq_comm]

theorem proper : Proper ladder.buckets := by
  constructor
  · intro bucket member
    have held : bucket.count ∈ ladder.levels.map .finite :=
      ladder.counts_buckets ▸ List.mem_map_of_mem member
    rcases List.mem_map.mp held with ⟨count, inside, same⟩
    exact ⟨count, ladder.nonneg count inside, same.symm⟩
  · intro bucket member
    rcases ladder.mem_buckets.mp member with ⟨rung, -, rfl⟩ | ⟨count, -, rfl⟩
    · exact .inl ⟨rung.bound, rfl⟩
    · exact .inr rfl

theorem finite_buckets : Bucket.finite ladder.buckets = ladder.rungs.map exact := by
  have cut : cutPosition (fun bucket => Scalar.isFinite bucket.bound) ladder.buckets =
      (ladder.rungs.map exact).length := by
    apply cutPosition_append
    · intro bucket member
      rcases List.mem_map.mp member with ⟨rung, -, rfl⟩
      rfl
    · intro bucket member
      rcases List.mem_map.mp member with ⟨count, -, rfl⟩
      rfl
  rw [Bucket.finite, cut]
  exact List.take_left

theorem total_buckets : Bucket.total ladder.buckets = .finite ladder.total := by
  have counted : Bucket.total ladder.buckets =
      (ladder.buckets.map (·.count)).getLastD (.finite 0) := by
    rw [List.getLastD_eq_getLast?, List.getLast?_map, Bucket.total]
    cases ladder.buckets.getLast? <;> rfl
  rw [counted, counts_buckets, total, List.getLastD_eq_getLast?, List.getLast?_map,
    List.getLastD_eq_getLast?]
  cases ladder.levels.getLast? <;> rfl

theorem total_of_top {count : Rat} (top : ladder.top = some count) : ladder.total = count := by
  rw [total, levels, top, Option.toList_some, List.getLastD_concat]

theorem count_le_total {count : Rat} (member : count ∈ ladder.levels) : count ≤ ladder.total := by
  rcases List.eq_nil_or_concat' ladder.levels with nothing | ⟨front, last, split⟩
  · rw [nothing] at member
    cases member
  · have rising : (front ++ [last]).Pairwise (· ≤ ·) := split ▸ ladder.counts
    rw [total, split, List.getLastD_concat]
    rcases eq_or_rel_last rising (split ▸ member) with same | before
    · exact same ▸ Rat.le_refl
    · exact before

theorem total_mem : ladder.total ∈ 0 :: ladder.levels := List.getLastD_mem_cons

theorem total_nonneg : 0 ≤ ladder.total := by
  rcases List.mem_cons.mp ladder.total_mem with nothing | member
  · exact nothing ▸ Rat.le_refl
  · exact ladder.nonneg _ member

theorem climbs : Climbs ground ladder.rungs := by
  refine ⟨ladder.bounds, List.pairwise_cons.mpr ⟨?_, ?_⟩⟩
  · intro rung member
    exact ladder.nonneg _ (List.mem_append_left _ (List.mem_map_of_mem member))
  · exact List.pairwise_map.mp (List.pairwise_append.mp ladder.counts).1

theorem bound_le_last {front : List (Bucket Rat)} {last : Bucket Rat}
    (split : ladder.rungs = front ++ [last]) {rung : Bucket Rat} (member : rung ∈ ladder.rungs) :
    rung.bound ≤ last.bound := by
  rcases eq_or_rel_last (split ▸ ladder.bounds) (split ▸ member) with same | before
  · exact same ▸ Rat.le_refl
  · exact Rat.le_of_lt before

theorem count_le_last {front : List (Bucket Rat)} {last : Bucket Rat}
    (split : ladder.rungs = front ++ [last]) {rung : Bucket Rat} (member : rung ∈ ladder.rungs) :
    rung.count ≤ last.count := by
  have rising := (List.pairwise_cons.mp ladder.climbs.counts).2
  rcases eq_or_rel_last (split ▸ rising) (split ▸ member) with same | before
  · exact same ▸ Rat.le_refl
  · exact before

theorem lastFinite {front : List (Bucket Rat)} {last : Bucket Rat}
    (split : ladder.rungs = front ++ [last]) : LastFinite ladder.buckets (exact last) := by
  refine ⟨ladder.mem_buckets.mpr (.inl ⟨last, by simp [split], rfl⟩), rfl, ?_⟩
  intro bucket member finite
  rcases ladder.mem_buckets.mp member with ⟨rung, inside, rfl⟩ | ⟨count, -, rfl⟩
  · exact Exact.finite_le_iff.mpr (ladder.bound_le_last split inside)
  · cases finite

theorem exists_last (bounded : ∃ bucket ∈ ladder.buckets, Scalar.isFinite bucket.bound = true) :
    ∃ front last, ladder.rungs = front ++ [last] := by
  rcases List.eq_nil_or_concat' ladder.rungs with nothing | split
  · rcases bounded with ⟨bucket, member, finite⟩
    rcases ladder.mem_buckets.mp member with ⟨rung, inside, rfl⟩ | ⟨count, -, rfl⟩
    · rw [nothing] at inside
      cases inside
    · cases finite
  · exact split

end Ladder

end SeriesQuery

namespace SeriesQuery.Bucket

/-- Buckets out of order, with a bound below zero, one bound given twice and a count that falls. -/
def shuffled : List (Bucket Exact) :=
  [unbounded 9, exact ⟨5, 4⟩, exact ⟨10, 3⟩, exact ⟨-2, 1⟩, exact ⟨5, 1⟩]

def shuffledLadder : Ladder where
  rungs := [⟨-2, 1⟩, ⟨5, 5⟩, ⟨10, 5⟩]
  top := some 9
  bounds := by decide
  counts := by decide
  nonneg := by decide

theorem prepare_shuffled : prepare shuffled = shuffledLadder.buckets := by
  cbv

theorem proper_shuffled : Proper (prepare shuffled) := prepare_shuffled ▸ shuffledLadder.proper

theorem mem_prepare_shuffled : exact ⟨5, 5⟩ ∈ prepare shuffled := by
  rw [prepare_shuffled]
  exact shuffledLadder.mem_buckets.mpr (.inl ⟨⟨5, 5⟩, .tail _ (.head _), rfl⟩)

end SeriesQuery.Bucket
