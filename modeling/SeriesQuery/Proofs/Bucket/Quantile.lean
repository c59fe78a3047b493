import SeriesQuery.Proofs.Bucket.Ladder
import SeriesQuery.Proofs.Bucket.Line
/-!
Quantiles read off prepared buckets, without rounding. Main statement: a larger part of all
observations lies below no smaller bound, and each bound is that of a place in the bucket where its
rank is reached, unless the rank is reached within a first bucket of negative bound.
-/
namespace SeriesQuery.Bucket

/-- Bounds between rungs, from a rung below all of them: even growth from each one to the next. -/
def boundFrom (lower : Bucket Rat) : List (Bucket Rat) → Rat → Rat
  | [], _ => lower.bound
  | upper :: rest, rank =>
    if upper.count < rank then boundFrom upper rest rank
    else if upper.count ≤ lower.count then upper.bound
    else line lower.point.swap upper.point.swap rank

/-- Whether a rank is not reached on the way down to a first rung that is below the one before. -/
def Leans (lower : Bucket Rat) (rungs : List (Bucket Rat)) (rank : Rat) : Prop :=
  ∀ upper ∈ rungs.head?, lower.bound ≤ upper.bound ∨ upper.count ≤ rank

section Rungs

variable {lower : Bucket Rat} {rungs : List (Bucket Rat)}

/-- Rungs that are passed leave nothing behind but the last of them. -/
theorem boundFrom_append {below : List (Bucket Rat)} {rank : Rat}
    (passed : ∀ rung ∈ below, rung.count < rank) (above : List (Bucket Rat)) :
    boundFrom lower (below ++ above) rank = boundFrom (below.getLastD lower) above rank := by
  induction below generalizing lower with
  | nil => rfl
  | cons rung rest ih =>
      rw [List.cons_append, boundFrom, if_pos (passed rung List.mem_cons_self),
        ih fun other member => passed other (List.mem_cons_of_mem _ member), List.getLastD_cons]

theorem boundFrom_passed {upper : Bucket Rat} {rank : Rat} (passed : upper.count < rank) :
    boundFrom lower (upper :: rungs) rank = boundFrom upper rungs rank := if_pos passed

theorem boundFrom_flat {upper : Bucket Rat} {rank : Rat} (reached : rank ≤ upper.count)
    (flat : upper.count ≤ lower.count) : boundFrom lower (upper :: rungs) rank = upper.bound := by
  rw [boundFrom, if_neg (not_lt.mpr reached), if_pos flat]

theorem boundFrom_steep {upper : Bucket Rat} {rank : Rat} (reached : rank ≤ upper.count)
    (steep : lower.count < upper.count) : boundFrom lower (upper :: rungs) rank =
      line lower.point.swap upper.point.swap rank := by
  rw [boundFrom, if_neg (not_lt.mpr reached), if_neg (not_le.mpr steep)]

theorem boundFrom_top {upper : Bucket Rat} :
    boundFrom lower (upper :: rungs) upper.count = upper.bound := by
  rcases le_or_gt upper.count lower.count with flat | steep
  · exact boundFrom_flat le_rfl flat
  · rw [boundFrom_steep le_rfl steep]
    exact line_second lower.point.swap upper.point.swap steep

/-- A rank that is reached at a rung lies between the bounds of the rung and the one below it. -/
theorem boundFrom_mem {upper : Bucket Rat} {rank : Rat} (begun : lower.count ≤ rank)
    (reached : rank ≤ upper.count) (rises : lower.bound ≤ upper.bound) :
    lower.bound ≤ boundFrom lower (upper :: rungs) rank ∧
      boundFrom lower (upper :: rungs) rank ≤ upper.bound := by
  rcases le_or_gt upper.count lower.count with flat | steep
  · rw [boundFrom_flat reached flat]
    exact ⟨rises, le_rfl⟩
  · rw [boundFrom_steep reached steep]
    exact line_mem lower.point.swap upper.point.swap steep rises begun reached

theorem boundFrom_le {upper : Bucket Rat} {rank : Rat} (begun : lower.count ≤ rank)
    (reached : rank ≤ upper.count) (leans : Leans lower (upper :: rungs) rank) :
    boundFrom lower (upper :: rungs) rank ≤ upper.bound := by
  rcases leans upper rfl with rises | short
  · exact (boundFrom_mem begun reached rises).2
  · rw [le_antisymm reached short]
    exact boundFrom_top.le

theorem Climbs.leans {upper : Bucket Rat} (climbs : Climbs lower (upper :: rungs)) (rank : Rat) :
    Leans upper rungs rank := by
  intro next member
  exact .inl (climbs.bound_lt (List.mem_of_mem_head? member)).le

/-- No bound read off rungs is below the rung counted from, if that is below them. -/
theorem Climbs.bound_le_boundFrom (climbs : Climbs lower rungs)
    (rises : ∀ rung ∈ rungs, lower.bound ≤ rung.bound) {rank : Rat} (begun : lower.count ≤ rank) :
    lower.bound ≤ boundFrom lower rungs rank := by
  induction rungs generalizing lower with
  | nil => exact le_rfl
  | cons upper rest ih =>
      have rise := rises upper List.mem_cons_self
      rcases lt_or_ge upper.count rank with passed | reached
      · rw [boundFrom_passed passed]
        exact rise.trans (ih climbs.tail (fun rung member => (climbs.bound_lt member).le) passed.le)
      · exact (boundFrom_mem begun reached rise).1

theorem Climbs.boundFrom_mono (climbs : Climbs lower rungs) {rank other : Rat}
    (begun : lower.count ≤ rank) (leans : Leans lower rungs rank) (le : rank ≤ other) :
    boundFrom lower rungs rank ≤ boundFrom lower rungs other := by
  induction rungs generalizing lower with
  | nil => exact le_rfl
  | cons upper rest ih =>
      rcases lt_or_ge upper.count rank with passed | reached
      · rw [boundFrom_passed passed, boundFrom_passed (passed.trans_le le)]
        exact ih climbs.tail passed.le (climbs.leans rank)
      rcases lt_or_ge upper.count other with passes | reaches
      · rw [boundFrom_passed passes]
        exact (boundFrom_le begun reached leans).trans (climbs.tail.bound_le_boundFrom
          (fun rung member => (climbs.bound_lt member).le) passes.le)
      rcases le_or_gt upper.count lower.count with flat | steep
      · rw [boundFrom_flat reached flat, boundFrom_flat reaches flat]
      rcases leans upper rfl with rises | short
      · rw [boundFrom_steep reached steep, boundFrom_steep reaches steep]
        exact line_mono lower.point.swap upper.point.swap steep rises le
      · rw [le_antisymm le (reaches.trans short)]

end Rungs

theorem clamp_finite {part : Rat} (low : 0 ≤ part) (high : part ≤ 1) :
    Scalar.clamp (Scalar.ofNat 0) (Scalar.ofNat 1) (Exact.finite part) = .finite part := by
  have below : ¬ Exact.finite part < .finite 0 := fun less =>
    not_lt.mpr low (Exact.finite_lt_iff.mp less)
  have above : ¬ Exact.finite 1 < .finite part := fun less =>
    not_lt.mpr high (Exact.finite_lt_iff.mp less)
  exact (if_neg below).trans (if_neg above)

theorem boundBetween_exact {lower upper : Bucket Rat} (steep : lower.count < upper.count)
    (rank : Rat) : boundBetween (exact lower) (exact upper) (.finite rank) =
      .finite (line lower.point.swap upper.point.swap rank) := by
  have height : upper.count - lower.count ≠ 0 := by linarith
  simp only [boundBetween, exact, Exact.finite_sub, Exact.finite_mul, Exact.finite_div height,
    Exact.finite_add]
  rfl

end SeriesQuery.Bucket

namespace SeriesQuery.Ladder

open Bucket

variable (ladder : Ladder)

/-- The bound at which so many observations are reached. -/
def boundAt (rank : Rat) : Rat := boundFrom ground ladder.rungs rank

theorem lastFiniteBound?_buckets : lastFiniteBound? ladder.buckets ladder.rungs.length =
    ladder.rungs.getLast?.map fun rung => .finite rung.bound := by
  have taken : ladder.buckets.take ladder.rungs.length = ladder.rungs.map exact := by
    rw [buckets, List.take_left' (List.length_map exact)]
  rw [lastFiniteBound?, taken]
  rcases List.eq_nil_or_concat' ladder.rungs with nothing | ⟨front, last, split⟩
  · rw [nothing]
    rfl
  · rw [split, List.map_append, List.reverse_append, List.getLast?_concat]
    rfl

theorem exists_total (positive : 0 < ladder.total) :
    ∃ bucket ∈ ladder.buckets, bucket.count = .finite ladder.total := by
  have member : ladder.total ∈ ladder.levels :=
    (List.mem_cons.mp ladder.total_mem).resolve_left positive.ne'
  have held := List.mem_map_of_mem (f := Exact.finite) member
  rw [← counts_buckets] at held
  exact List.mem_map.mp held

/-- The search for a rank ends at the first bucket that reaches it. -/
theorem exists_reached {rank : Rat} (positive : 0 < ladder.total) (reached : rank ≤ ladder.total) :
    ∃ front upper back, ladder.buckets = front ++ upper :: back ∧
      (∀ bucket ∈ front, bucket.count < .finite rank) ∧ ¬ upper.count < .finite rank ∧
      cutPosition (fun bucket => decide (bucket.count < .finite rank)) ladder.buckets =
        front.length := by
  have settled : (ladder.buckets.map (·.count)).Pairwise fun a b =>
      decide (b < .finite rank) = true → decide (a < .finite rank) = true := by
    rw [counts_buckets]
    refine List.pairwise_map.mpr (ladder.counts.imp fun le passed => ?_)
    rw [decide_eq_true_iff, Exact.finite_lt_iff] at passed ⊢
    exact le.trans_lt passed
  rcases ladder.exists_total positive with ⟨last, member, counted⟩
  have failed : decide (last.count < .finite rank) = false := by
    rw [counted, decide_eq_false_iff_not, Exact.finite_lt_iff]
    exact not_lt.mpr reached
  rcases exists_cut (List.pairwise_map.mp settled) ⟨last, member, failed⟩ with
    ⟨front, upper, back, split, passed, failed, cut⟩
  exact ⟨front, upper, back, split, fun bucket member => of_decide_eq_true (passed bucket member),
    of_decide_eq_false failed, cut⟩

theorem count_lt_of_map {below : List (Bucket Rat)} {rank : Rat}
    (passed : ∀ bucket ∈ below.map exact, bucket.count < .finite rank) :
    ∀ rung ∈ below, rung.count < rank := by
  intro rung member
  exact Exact.finite_lt_iff.mp (passed (exact rung) (List.mem_map_of_mem member))

/-- The bucket where the rank is reached decides the quantile. -/
theorem quantile?_eq {part rank : Rat} (positive : 0 < ladder.total) (low : 0 ≤ part)
    (high : part ≤ 1) (ranked : part * ladder.total = rank) :
    ∃ front upper back, ladder.buckets = front ++ upper :: back ∧
      (∀ bucket ∈ front, bucket.count < .finite rank) ∧ ¬ upper.count < .finite rank ∧
      quantile? ladder.buckets (.finite part) =
        if !Scalar.isFinite upper.bound then lastFiniteBound? ladder.buckets front.length
        else if upper.count ≤ (before ladder.buckets front.length).count then some upper.bound
        else some (boundBetween (before ladder.buckets front.length) upper (.finite rank)) := by
  have reached : rank ≤ ladder.total := by
    rw [← ranked]
    exact mul_le_of_le_one_left positive.le high
  rcases ladder.exists_reached positive reached with ⟨front, upper, back, split, passed, stops, cut⟩
  refine ⟨front, upper, back, split, passed, stops, ?_⟩
  have counted : ¬ Exact.finite ladder.total ≤ Scalar.ofNat 0 := fun le =>
    not_le.mpr positive (Exact.finite_le_iff.mp le)
  have nearest : min front.length (ladder.buckets.length - 1) = front.length := by
    rw [split, List.length_append, List.length_cons]
    omega
  have here : ladder.buckets[front.length]? = some upper := by simp [split]
  have product : Scalar.clamp (Scalar.ofNat 0) (Scalar.ofNat 1) (Exact.finite part) *
      .finite ladder.total = .finite rank := by
    rw [clamp_finite low high, Exact.finite_mul, ranked]
  have filled : ladder.buckets ≠ [] := List.ne_nil_of_mem (List.mem_of_getElem? here)
  simp only [quantile?, List.getLast?_eq_some_getLast filled, total_buckets, product, cut, nearest,
    here, Option.getD_some, Option.bind_eq_bind, Option.bind_some, if_neg counted]

theorem boundAt_passed {rank : Rat} (passed : ∀ rung ∈ ladder.rungs, rung.count < rank) :
    ladder.boundAt rank = (ladder.rungs.getLastD ground).bound := by
  rw [boundAt, ← List.append_nil ladder.rungs, boundFrom_append passed, List.append_nil, boundFrom]

theorem quantile?_buckets (filled : ladder.rungs ≠ []) (positive : 0 < ladder.total) {part : Rat}
    (low : 0 ≤ part) (high : part ≤ 1) : quantile? ladder.buckets (.finite part) =
      some (.finite (ladder.boundAt (part * ladder.total))) := by
  generalize ranked : part * ladder.total = rank
  rcases ladder.quantile?_eq positive low high ranked with
    ⟨front, upper, back, split, passed, stops, eq⟩
  rw [eq]
  rcases split_exact split with ⟨below, rung, above, parted, rfl, rfl⟩ | ⟨rfl, count, top, rfl⟩
  · have onward : ladder.boundAt rank = boundFrom (below.getLastD ground) (rung :: above) rank := by
      rw [boundAt, parted, boundFrom_append (count_lt_of_map passed)]
    have reached : rank ≤ rung.count := not_lt.mp fun less => stops (Exact.finite_lt_iff.mpr less)
    have isFinite : ¬ (!Scalar.isFinite (exact rung).bound) = true := nofun
    rw [if_neg isFinite, onward, split, List.length_map, before_exact, exact_count, exact_count,
      exact_bound]
    split_ifs with flat
    · rw [boundFrom_flat reached (Exact.finite_le_iff.mp flat)]
    · have steep := not_le.mp fun le => flat (Exact.finite_le_iff.mpr le)
      rw [boundBetween_exact steep, boundFrom_steep reached steep]
  · have isInfinite : (!Scalar.isFinite (unbounded count).bound) = true := rfl
    rw [if_pos isInfinite, List.length_map, lastFiniteBound?_buckets,
      ladder.boundAt_passed (count_lt_of_map passed), List.getLastD_eq_getLast?,
      List.getLast?_eq_some_getLast filled]
    rfl

/-- Without a finite bound there is none to report. -/
theorem quantile?_of_unbounded (nothing : ladder.rungs = []) (positive : 0 < ladder.total)
    {part : Rat} (low : 0 ≤ part) (high : part ≤ 1) :
    quantile? ladder.buckets (.finite part) = none := by
  rcases ladder.quantile?_eq positive low high rfl with ⟨front, upper, back, split, -, -, eq⟩
  rcases split_exact split with ⟨below, rung, above, parted, -, -⟩ | ⟨rfl, count, -, rfl⟩
  · rw [nothing] at parted
    cases below <;> cases parted
  · have isInfinite : (!Scalar.isFinite (unbounded count).bound) = true := rfl
    rw [eq, if_pos isInfinite, List.length_map, lastFiniteBound?_buckets, nothing]
    rfl

/-- Beyond the count of the last rung nothing but its bound is left to report. -/
theorem boundAt_beyond {front : List (Bucket Rat)} {last : Bucket Rat}
    (split : ladder.rungs = front ++ [last]) {rank : Rat} (beyond : last.count < rank) :
    ladder.boundAt rank = last.bound := by
  have passed : ∀ rung ∈ ladder.rungs, rung.count < rank := fun rung member =>
    (ladder.count_le_last split member).trans_lt beyond
  rw [ladder.boundAt_passed passed, split, List.getLastD_concat]

theorem boundAt_le_last {front : List (Bucket Rat)} {last : Bucket Rat}
    (split : ladder.rungs = front ++ [last]) {rank : Rat} (nonneg : 0 ≤ rank)
    (leans : Leans ground ladder.rungs rank) : ladder.boundAt rank ≤ last.bound := by
  have beyond : last.count < max rank (last.count + 1) := lt_max_of_lt_right (lt_add_one _)
  calc ladder.boundAt rank
    _ ≤ ladder.boundAt (max rank (last.count + 1)) :=
      ladder.climbs.boundFrom_mono nonneg leans (le_max_left _ _)
    _ = last.bound := ladder.boundAt_beyond split beyond

/-- A rank is reached between the bounds of two neighbours. -/
theorem boundAt_mem {below above : List (Bucket Rat)} {rung : Bucket Rat}
    (parted : ladder.rungs = below ++ rung :: above) {rank : Rat} (nonneg : 0 ≤ rank)
    (leans : Leans ground ladder.rungs rank) (passed : ∀ rung ∈ below, rung.count < rank)
    (reached : rank ≤ rung.count) :
    ladder.boundAt rank ≤ rung.bound ∧
      ∀ lower ∈ below.getLast?, lower.bound ≤ ladder.boundAt rank := by
  rw [boundAt, parted, boundFrom_append passed]
  rcases List.eq_nil_or_concat' below with rfl | ⟨front, lower, rfl⟩
  · rw [parted] at leans
    exact ⟨boundFrom_le nonneg reached leans, nofun⟩
  · rw [List.getLastD_concat, List.getLast?_concat]
    have begun : lower.count ≤ rank := (passed lower (by simp)).le
    have rises : lower.bound ≤ rung.bound := by
      have bounds := ladder.bounds
      rw [parted, List.pairwise_append] at bounds
      exact (bounds.2.2 lower (by simp) rung List.mem_cons_self).le
    have inside : lower.bound ≤ boundFrom lower (rung :: above) rank ∧
        boundFrom lower (rung :: above) rank ≤ rung.bound := boundFrom_mem begun reached rises
    refine ⟨inside.2, ?_⟩
    rintro _ ⟨⟩
    exact inside.1

/-- A negative first bound is passed by every rank within its bucket. -/
theorem lt_boundAt {first : Bucket Rat} (head : ladder.rungs.head? = some first)
    (negative : first.bound < 0) {rank : Rat} (nonneg : 0 ≤ rank) (within : rank < first.count) :
    first.bound < ladder.boundAt rank := by
  rcases List.head?_eq_some_iff.mp head with ⟨rest, split⟩
  have steep : ground.count < first.count := nonneg.trans_lt within
  have less : first.bound * first.count < first.bound * rank :=
    mul_lt_mul_of_neg_left within negative
  calc first.bound
    _ < first.bound * rank / first.count := (lt_div_iff₀ steep).mpr less
    _ = line ground.point.swap first.point.swap rank := by
      simp [line, point, ground]
    _ = ladder.boundAt rank := by
      rw [boundAt, split, boundFrom_steep within.le steep]

end SeriesQuery.Ladder

namespace SeriesQuery.Bucket

/--
What the bounds read off buckets at two ranks, the first one not above the other, have to satisfy:
they do not fall, none is beyond the largest finite bound, and the first is one of the bucket where
its rank is reached.
-/
structure Consistent (buckets : List (Bucket Exact)) (last : Bucket Exact)
    (rank bound further : Exact) : Prop where
  ordered : bound ≤ further
  within : further ≤ last.bound
  inBucket : ∀ front upper back, buckets = front ++ upper :: back →
    (∀ bucket ∈ front, bucket.count < rank) → rank ≤ upper.count →
      Scalar.isFinite upper.bound = true →
        bound ≤ upper.bound ∧ ∀ lower ∈ front.getLast?, lower.bound ≤ bound

end SeriesQuery.Bucket

namespace SeriesQuery.Ladder

open Bucket

variable (ladder : Ladder)

theorem leans_iff (filled : ladder.rungs ≠ []) {rank : Rat} :
    Leans ground ladder.rungs rank ↔ ∀ first ∈ ladder.buckets.head?,
      ¬ (first.bound < .finite 0 ∧ .finite rank < first.count) := by
  rcases List.exists_cons_of_ne_nil filled with ⟨first, rest, split⟩
  simp only [Leans, buckets, split, List.map_cons, List.cons_append, List.head?_cons,
    Option.mem_some_iff, forall_eq', exact_bound, exact_count, Exact.finite_lt_iff, not_and_or,
    not_lt]
  rfl

theorem consistent_iff {front : List (Bucket Rat)} {last : Bucket Rat}
    (split : ladder.rungs = front ++ [last]) {rank further : Rat} (nonneg : 0 ≤ rank)
    (le : rank ≤ further) :
    Consistent ladder.buckets (exact last) (.finite rank) (.finite (ladder.boundAt rank))
      (.finite (ladder.boundAt further)) ↔ Leans ground ladder.rungs rank := by
  constructor
  · intro consistent first head
    by_contra falls
    rw [not_or, not_le, not_le] at falls
    rcases List.head?_eq_some_iff.mp head with ⟨rest, parted⟩
    have atFirst : ladder.buckets =
        [] ++ exact first :: (rest.map exact ++ ladder.top.toList.map unbounded) := by
      rw [buckets, parted]
      rfl
    have inside := (consistent.inBucket [] _ _ atFirst
      (fun bucket nothing => absurd nothing List.not_mem_nil)
      (Exact.finite_le_iff.mpr falls.2.le) rfl).1
    exact not_lt.mpr (Exact.finite_le_iff.mp inside)
      (ladder.lt_boundAt head falls.1 nonneg falls.2)
  · intro leans
    constructor
    case ordered =>
      exact Exact.finite_le_iff.mpr (ladder.climbs.boundFrom_mono nonneg leans le)
    case within =>
      have further' : Leans ground ladder.rungs further := fun upper head =>
        (leans upper head).imp id le.trans'
      exact Exact.finite_le_iff.mpr (ladder.boundAt_le_last split (nonneg.trans le) further')
    case inBucket =>
      intro before upper after parted passed reached finite
      rcases split_exact parted with ⟨below, rung, above, rungs, rfl, rfl⟩ | ⟨-, count, -, rfl⟩
      · have bounds := ladder.boundAt_mem rungs nonneg leans (count_lt_of_map passed)
          (Exact.finite_le_iff.mp reached)
        refine ⟨Exact.finite_le_iff.mpr bounds.1, ?_⟩
        intro lower member
        rw [List.getLast?_map, Option.mem_def, Option.map_eq_some_iff] at member
        rcases member with ⟨rung, here, rfl⟩
        exact Exact.finite_le_iff.mpr (bounds.2 rung here)
      · cases finite

end SeriesQuery.Ladder

namespace SeriesQuery.Bucket

theorem quantile?_consistent_iff {raw : List (Bucket Exact)} (proper : Proper (prepare raw))
    (bounded : ∃ bucket ∈ prepare raw, Scalar.isFinite bucket.bound = true)
    (positive : .finite 0 < total (prepare raw)) {part other : Rat} (low : 0 ≤ part)
    (le : part ≤ other) (high : other ≤ 1) :
    ∃ last, LastFinite (prepare raw) last ∧ ∃ bound further,
      quantile? (prepare raw) (.finite part) = some bound ∧
      quantile? (prepare raw) (.finite other) = some further ∧
      (Consistent (prepare raw) last (.finite part * total (prepare raw)) bound further ↔
        ∀ first ∈ (prepare raw).head?, ¬ (first.bound < .finite 0 ∧
          .finite part * total (prepare raw) < first.count)) := by
  rcases Ladder.exists_buckets_eq proper with ⟨ladder, same⟩
  rw [← same] at bounded positive ⊢
  rw [ladder.total_buckets, Exact.finite_lt_iff] at positive
  rcases ladder.exists_last bounded with ⟨front, last, split⟩
  have filled : ladder.rungs ≠ [] := by simp [split]
  refine ⟨exact last, ladder.lastFinite split, _, _,
    ladder.quantile?_buckets filled positive low (le.trans high),
    ladder.quantile?_buckets filled positive (low.trans le) high, ?_⟩
  rw [ladder.total_buckets, Exact.finite_mul, ← ladder.leans_iff filled]
  exact ladder.consistent_iff split (mul_nonneg low positive.le)
    (mul_le_mul_of_nonneg_right le positive.le)

theorem quantile?_consistent_iff_shuffled :
    Proper (prepare shuffled) ∧ exact ⟨5, 5⟩ ∈ prepare shuffled ∧
      .finite 0 < total (prepare shuffled) ∧
      quantile? (prepare shuffled) (.finite (1 / 2)) = some (.finite (33 / 8)) ∧
      quantile? (prepare shuffled) (.finite (3 / 4)) = some (.finite 10) ∧
      ∃ last, LastFinite (prepare shuffled) last ∧
        Consistent (prepare shuffled) last (.finite (9 / 2)) (.finite (33 / 8)) (.finite 10) := by
  have positive : .finite 0 < total (prepare shuffled) := by
    rw [prepare_shuffled]
    decide
  have half : quantile? (prepare shuffled) (.finite (1 / 2)) = some (.finite (33 / 8)) := by
    rw [prepare_shuffled]
    decide +kernel
  have most : quantile? (prepare shuffled) (.finite (3 / 4)) = some (.finite 10) := by
    rw [prepare_shuffled]
    decide +kernel
  refine ⟨proper_shuffled, mem_prepare_shuffled, positive, half, most, ?_⟩
  have low : (0 : Rat) ≤ 1 / 2 := by norm_num
  have le : (1 / 2 : Rat) ≤ 3 / 4 := by norm_num
  have high : (3 / 4 : Rat) ≤ 1 := by norm_num
  rcases quantile?_consistent_iff proper_shuffled ⟨_, mem_prepare_shuffled, rfl⟩ positive low le
    high with ⟨last, isLast, bound, further, here, there, iff⟩
  obtain rfl := Option.some.inj (half.symm.trans here)
  obtain rfl := Option.some.inj (most.symm.trans there)
  have rank : .finite (1 / 2) * total (prepare shuffled) = Exact.finite (9 / 2) := by
    rw [prepare_shuffled]
    decide +kernel
  have first : (prepare shuffled).head? = some (exact ⟨-2, 1⟩) := by
    rw [prepare_shuffled]
    rfl
  refine ⟨last, isLast, rank ▸ iff.mpr ?_⟩
  rw [first, rank]
  rintro _ ⟨⟩ ⟨-, short⟩
  rw [exact_count, Exact.finite_lt_iff] at short
  norm_num at short

/-- A histogram whose only finite bound is negative. -/
def sunken : List (Bucket Exact) := [exact ⟨-10, 5⟩, unbounded 10]

def sunkenLadder : Ladder where
  rungs := [⟨-10, 5⟩]
  top := some 10
  bounds := by decide
  counts := by decide
  nonneg := by decide

/-- A larger part of the observations lies below a smaller bound, and a part below none of them. -/
theorem quantile?_sunken :
    Proper (prepare sunken) ∧ LastFinite (prepare sunken) (exact ⟨-10, 5⟩) ∧
      .finite 0 < total (prepare sunken) ∧
      quantile? (prepare sunken) (.finite 0) = some (.finite 0) ∧
      quantile? (prepare sunken) (.finite (1 / 2)) = some (.finite (-10)) ∧
      ¬ Exact.finite 0 ≤ .finite (-10) := by
  have same : sunkenLadder.buckets = prepare sunken := by cbv
  rw [← same]
  have split : sunkenLadder.rungs = [] ++ [⟨-10, 5⟩] := rfl
  exact ⟨sunkenLadder.proper, sunkenLadder.lastFinite split, by decide,
    by decide +kernel, by decide +kernel, by decide⟩

end SeriesQuery.Bucket
