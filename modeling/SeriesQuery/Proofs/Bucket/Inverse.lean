import SeriesQuery.Proofs.Bucket.Counting
import SeriesQuery.Proofs.Bucket.Quantile
/-!
Counts and quantiles undo each other where all bounds are positive. Main statement: as many
observations as were asked for are counted up to a quantile, and where counts rise from bucket to
bucket a bound is the quantile of the observations counted up to it.
-/
namespace SeriesQuery.Bucket

section Rungs

variable {lower : Bucket Rat} {rungs : List (Bucket Rat)}

/-- Within one bucket both are read off one line. -/
theorem countFrom_line {upper : Bucket Rat} {rank : Rat} (begun : lower.count ≤ rank)
    (reached : rank < upper.count) (rises : lower.bound < upper.bound) :
    countFrom lower (upper :: rungs) (line lower.point.swap upper.point.swap rank) = rank := by
  have steep : lower.count < upper.count := begun.trans_lt reached
  have back := line_swap lower.point.swap upper.point.swap steep rises rank
  rw [Prod.swap_swap, Prod.swap_swap] at back
  have inside := line_mem lower.point.swap upper.point.swap steep rises.le begun reached.le
  generalize line lower.point.swap upper.point.swap rank = bound at back inside ⊢
  have before : bound < upper.bound := by
    refine lt_of_le_of_ne inside.2 ?_
    rintro rfl
    exact reached.ne' ((line_second lower.point upper.point rises).symm.trans back)
  rw [countFrom_before before]
  split_ifs with low
  · have same : bound = lower.bound := le_antisymm low inside.1
    rw [same] at back
    exact (line_first lower.point upper.point).symm.trans back
  · exact back

theorem Climbs.countFrom_boundFrom (climbs : Climbs lower rungs)
    (rises : ∀ rung ∈ rungs, lower.bound < rung.bound) {rank : Rat} (begun : lower.count ≤ rank)
    (reached : ∃ rung ∈ rungs, rank ≤ rung.count) :
    countFrom lower rungs (boundFrom lower rungs rank) = rank := by
  induction rungs generalizing lower with
  | nil =>
      rcases reached with ⟨rung, nothing, -⟩
      cases nothing
  | cons upper rest ih =>
      have onward : ∀ rung ∈ rest, upper.bound < rung.bound := fun rung member =>
        climbs.bound_lt member
      rcases lt_trichotomy upper.count rank with passed | rfl | short
      · have further : ∃ rung ∈ rest, rank ≤ rung.count :=
          (List.exists_mem_cons_iff ..).mp reached |>.resolve_left (not_le.mpr passed)
        have after := climbs.tail.bound_le_boundFrom (fun rung member => (onward rung member).le)
          passed.le
        rw [boundFrom_passed passed, countFrom_passed after]
        exact ih climbs.tail onward passed.le further
      · rw [boundFrom_top]
        exact climbs.countFrom_bound List.mem_cons_self
      · rw [boundFrom_steep short.le (begun.trans_lt short)]
        exact countFrom_line begun short (rises upper List.mem_cons_self)

/-- Rungs whose counts rise from one to the next, from the rung below on. -/
def Rising (lower : Bucket Rat) (rungs : List (Bucket Rat)) : Prop :=
  (lower :: rungs).Pairwise fun a b => a.count < b.count

theorem Climbs.count_lt_countFrom (climbs : Climbs lower rungs) (rising : Rising lower rungs)
    (filled : rungs ≠ []) {bound : Rat} (after : lower.bound < bound) :
    lower.count < countFrom lower rungs bound := by
  rcases List.exists_cons_of_ne_nil filled with ⟨upper, rest, rfl⟩
  have steep := (List.pairwise_cons.mp rising).1 upper List.mem_cons_self
  rcases le_or_gt upper.bound bound with passed | before
  · rw [countFrom_passed passed]
    exact steep.trans_le (climbs.tail.count_le_countFrom bound)
  · have apart := after.trans before
    rw [countFrom_before before, if_neg (not_le.mpr after)]
    refine lt_of_le_of_ne (line_mem lower.point upper.point apart steep.le after.le before.le).1 ?_
    intro same
    have back := line_swap lower.point upper.point apart steep bound
    rw [← same] at back
    exact after.ne ((line_first lower.point.swap upper.point.swap).symm.trans back)

theorem Climbs.boundFrom_countFrom (climbs : Climbs lower rungs) (rising : Rising lower rungs)
    {bound : Rat} (after : lower.bound < bound) (reached : ∃ rung ∈ rungs, bound ≤ rung.bound) :
    boundFrom lower rungs (countFrom lower rungs bound) = bound := by
  induction rungs generalizing lower with
  | nil =>
      rcases reached with ⟨rung, nothing, -⟩
      cases nothing
  | cons upper rest ih =>
      have steep := (List.pairwise_cons.mp rising).1 upper List.mem_cons_self
      rcases lt_trichotomy upper.bound bound with passed | rfl | before
      · have onward : Rising upper rest := (List.pairwise_cons.mp rising).2
        have further : ∃ rung ∈ rest, bound ≤ rung.bound :=
          (List.exists_mem_cons_iff ..).mp reached |>.resolve_left (not_le.mpr passed)
        have filled : rest ≠ [] := by
          rintro rfl
          simp at further
        have more := climbs.tail.count_lt_countFrom onward filled passed
        rw [countFrom_passed passed.le, boundFrom_passed more]
        exact ih climbs.tail onward passed further
      · rw [climbs.countFrom_bound List.mem_cons_self]
        exact boundFrom_top
      · have apart := after.trans before
        have inside := line_mem lower.point upper.point apart steep.le after.le before.le
        rw [countFrom_before before, if_neg (not_le.mpr after), boundFrom_steep inside.2 steep]
        exact line_swap lower.point upper.point apart steep bound

end Rungs

end SeriesQuery.Bucket

namespace SeriesQuery.Bucket

/-- Whether each bucket of finite bound counts more than the one before it, from zero on. -/
def Steep (buckets : List (Bucket Exact)) : Prop :=
  (exact ground :: finite buckets).Pairwise fun a b => a.count < b.count

/-- What it means that counts and quantiles undo each other, up to the largest finite bound. -/
structure Inverse (buckets : List (Bucket Exact)) (last : Bucket Exact) : Prop where
  countAtMost_quantile : ∀ part : Rat, 0 ≤ part → part ≤ 1 →
    .finite part * total buckets ≤ last.count → ∃ bound : Rat,
      quantile? buckets (.finite part) = some (.finite bound) ∧
        countAtMost buckets (.finite bound) = .finite part * total buckets
  quantile_beyond : ∀ part : Rat, 0 ≤ part → part ≤ 1 →
    last.count < .finite part * total buckets →
      quantile? buckets (.finite part) = some last.bound
  quantile_countAtMost : Steep buckets → ∀ bound : Rat, 0 < bound → .finite bound ≤ last.bound →
    quantile? buckets (countAtMost buckets (.finite bound) / total buckets) =
      some (.finite bound)

end SeriesQuery.Bucket

namespace SeriesQuery.Ladder

open Bucket

variable (ladder : Ladder)

theorem inverse {front : List (Bucket Rat)} {last : Bucket Rat}
    (split : ladder.rungs = front ++ [last]) (rises : ∀ rung ∈ ladder.rungs, 0 < rung.bound)
    (positive : 0 < ladder.total) : Inverse ladder.buckets (exact last) := by
  have member : last ∈ ladder.rungs := split ▸ List.mem_append_right front List.mem_cons_self
  have filled : ladder.rungs ≠ [] := List.ne_nil_of_mem member
  constructor
  case countAtMost_quantile =>
    intro part low high reached
    rw [total_buckets, Exact.finite_mul, exact_count, Exact.finite_le_iff] at reached
    refine ⟨_, ladder.quantile?_buckets filled positive low high, ?_⟩
    rw [countAtMost_buckets, total_buckets, Exact.finite_mul]
    exact congrArg Exact.finite (ladder.climbs.countFrom_boundFrom rises
      (mul_nonneg low positive.le) ⟨last, member, reached⟩)
  case quantile_beyond =>
    intro part low high beyond
    rw [total_buckets, Exact.finite_mul, exact_count, Exact.finite_lt_iff] at beyond
    rw [ladder.quantile?_buckets filled positive low high, ladder.boundAt_beyond split beyond,
      exact_bound]
  case quantile_countAtMost =>
    intro steep bound above within
    have rising : Rising ground ladder.rungs := by
      rw [Steep, finite_buckets, ← List.map_cons, List.pairwise_map] at steep
      exact steep.imp Exact.finite_lt_iff.mp
    have low : 0 ≤ ladder.countUpTo bound / ladder.total :=
      div_nonneg (ladder.climbs.count_le_countFrom bound) positive.le
    have high : ladder.countUpTo bound / ladder.total ≤ 1 :=
      (div_le_one₀ positive).mpr (ladder.countUpTo_le_total bound)
    rw [countAtMost_buckets, total_buckets, Exact.finite_div positive.ne',
      ladder.quantile?_buckets filled positive low high, div_mul_cancel₀ _ positive.ne']
    exact congrArg (some ∘ Exact.finite) (ladder.climbs.boundFrom_countFrom rising above
      ⟨last, member, Exact.finite_le_iff.mp within⟩)

end SeriesQuery.Ladder

namespace SeriesQuery.Bucket

theorem quantile?_inverse {raw : List (Bucket Exact)} (proper : Proper (prepare raw))
    (above : ∀ bucket ∈ prepare raw, .finite 0 < bucket.bound)
    (positive : .finite 0 < total (prepare raw)) :
    ((∃ bucket ∈ prepare raw, Scalar.isFinite bucket.bound = true) →
      ∃ last, LastFinite (prepare raw) last ∧ Inverse (prepare raw) last) ∧
    ((∀ bucket ∈ prepare raw, Scalar.isFinite bucket.bound = false) →
      ∀ part : Rat, 0 ≤ part → part ≤ 1 → quantile? (prepare raw) (.finite part) = none) := by
  rcases Ladder.exists_buckets_eq proper with ⟨ladder, same⟩
  rw [← same] at above positive ⊢
  rw [ladder.total_buckets, Exact.finite_lt_iff] at positive
  constructor
  · intro bounded
    rcases ladder.exists_last bounded with ⟨front, last, split⟩
    have rises : ∀ rung ∈ ladder.rungs, 0 < rung.bound := by
      intro rung member
      have held : exact rung ∈ ladder.buckets := ladder.mem_buckets.mpr (.inl ⟨rung, member, rfl⟩)
      exact Exact.finite_lt_iff.mp (above (exact rung) held)
    exact ⟨exact last, ladder.lastFinite split, ladder.inverse split rises positive⟩
  · intro infinite part low high
    have nothing : ladder.rungs = [] := by
      refine List.eq_nil_iff_forall_not_mem.mpr fun rung member => ?_
      cases infinite (exact rung) (ladder.mem_buckets.mpr (.inl ⟨rung, member, rfl⟩))
    exact ladder.quantile?_of_unbounded nothing positive low high

/-- Buckets of positive bounds, out of order and with one bound given twice. -/
def latencies : List (Bucket Exact) :=
  [exact ⟨4, 5⟩, unbounded 10, exact ⟨8, 7⟩, exact ⟨1, 2⟩, exact ⟨4, 1⟩]

def latencyLadder : Ladder where
  rungs := [⟨1, 2⟩, ⟨4, 6⟩, ⟨8, 7⟩]
  top := some 10
  bounds := by decide
  counts := by decide
  nonneg := by decide

theorem quantile?_inverse_latencies :
    Proper (prepare latencies) ∧ (∀ bucket ∈ prepare latencies, .finite 0 < bucket.bound) ∧
      .finite 0 < total (prepare latencies) ∧ Steep (prepare latencies) ∧
      (∃ last, LastFinite (prepare latencies) last ∧ Inverse (prepare latencies) last) ∧
      quantile? (prepare latencies) (.finite (1 / 2)) = some (.finite (13 / 4)) ∧
      countAtMost (prepare latencies) (.finite (13 / 4)) = .finite 5 ∧
      quantile? (prepare latencies) (.finite (9 / 10)) = some (.finite 8) := by
  have same : latencyLadder.buckets = prepare latencies := by cbv
  have proper : Proper (prepare latencies) := same ▸ latencyLadder.proper
  have above : ∀ bucket ∈ prepare latencies, .finite 0 < bucket.bound := by
    rw [← same]
    decide
  have positive : .finite 0 < total (prepare latencies) := by
    rw [← same]
    decide
  have steep : Steep (prepare latencies) := by
    rw [← same, Steep, Ladder.finite_buckets]
    decide
  have held : exact ⟨8, 7⟩ ∈ prepare latencies := by
    rw [← same]
    exact latencyLadder.mem_buckets.mpr (.inl ⟨⟨8, 7⟩, .tail _ (.tail _ (.head _)), rfl⟩)
  have whole := (quantile?_inverse proper above positive).1 ⟨_, held, rfl⟩
  refine ⟨proper, above, positive, steep, whole, ?_⟩
  rw [← same]
  decide +kernel

end SeriesQuery.Bucket
