import SeriesQuery.Proofs.Bucket.Ladder
import SeriesQuery.Proofs.Bucket.Line
/-!
Counts read off prepared buckets, without rounding. Main statement: they grow with the bound from
zero to the count at the largest finite bound, and are the buckets' own counts at the buckets'
bounds; a threshold is answered by them or by what they leave of all observations.
-/
namespace SeriesQuery.Bucket

/-- Counts between rungs, from a rung below all of them: even growth from each one to the next. -/
def countFrom (lower : Bucket Rat) : List (Bucket Rat) → Rat → Rat
  | [], _ => lower.count
  | upper :: rest, bound =>
    if upper.bound ≤ bound then countFrom upper rest bound
    else if bound ≤ lower.bound then lower.count
    else line lower.point upper.point bound

section Rungs

variable {lower : Bucket Rat} {rungs : List (Bucket Rat)}

/-- Rungs that are passed leave nothing behind but the last of them. -/
theorem countFrom_append {below : List (Bucket Rat)} {bound : Rat}
    (passed : ∀ rung ∈ below, rung.bound ≤ bound) (above : List (Bucket Rat)) :
    countFrom lower (below ++ above) bound = countFrom (below.getLastD lower) above bound := by
  induction below generalizing lower with
  | nil => rfl
  | cons rung rest ih =>
      rw [List.cons_append, countFrom, if_pos (passed rung List.mem_cons_self),
        ih fun other member => passed other (List.mem_cons_of_mem _ member), List.getLastD_cons]

theorem countFrom_passed {upper : Bucket Rat} {bound : Rat} (passed : upper.bound ≤ bound) :
    countFrom lower (upper :: rungs) bound = countFrom upper rungs bound := if_pos passed

/-- Before a rung the counts are those of the rung below up to its bound, and of the line then. -/
theorem countFrom_before {upper : Bucket Rat} {bound : Rat} (before : bound < upper.bound) :
    countFrom lower (upper :: rungs) bound =
      if bound ≤ lower.bound then lower.count else line lower.point upper.point bound :=
  if_neg (not_le.mpr before)

theorem countFrom_mem {upper : Bucket Rat} (rises : lower.count ≤ upper.count) {bound : Rat}
    (before : bound < upper.bound) :
    lower.count ≤ countFrom lower (upper :: rungs) bound ∧
      countFrom lower (upper :: rungs) bound ≤ upper.count := by
  rw [countFrom_before before]
  split
  · exact ⟨le_refl _, rises⟩
  · rename_i after
    have apart : lower.bound < upper.bound := (not_le.mp after).trans before
    exact line_mem lower.point upper.point apart rises
      (not_le.mp after).le before.le

theorem Climbs.count_le_countFrom (climbs : Climbs lower rungs) (bound : Rat) :
    lower.count ≤ countFrom lower rungs bound := by
  induction rungs generalizing lower with
  | nil => exact le_refl _
  | cons upper rest ih =>
      have rises := climbs.count_le List.mem_cons_self
      by_cases passed : upper.bound ≤ bound
      · rw [countFrom_passed passed]
        exact rises.trans (ih climbs.tail)
      · exact (countFrom_mem rises (not_le.mp passed)).1

theorem Climbs.countFrom_mono (climbs : Climbs lower rungs) {bound other : Rat}
    (le : bound ≤ other) : countFrom lower rungs bound ≤ countFrom lower rungs other := by
  induction rungs generalizing lower with
  | nil => exact le_refl _
  | cons upper rest ih =>
      have rises := climbs.count_le List.mem_cons_self
      by_cases passed : upper.bound ≤ bound
      · rw [countFrom_passed passed, countFrom_passed (passed.trans le)]
        exact ih climbs.tail
      have before := not_le.mp passed
      by_cases passes : upper.bound ≤ other
      · rw [countFrom_passed passes]
        exact (countFrom_mem rises before).2.trans (climbs.tail.count_le_countFrom other)
      by_cases low : bound ≤ lower.bound
      · rw [countFrom_before before, if_pos low]
        exact climbs.count_le_countFrom other
      have apart : lower.bound < upper.bound := (not_le.mp low).trans before
      rw [countFrom_before before, countFrom_before (not_le.mp passes), if_neg low,
        if_neg fun below => low (le.trans below)]
      exact line_mono lower.point upper.point apart rises le

theorem Climbs.countFrom_bound (climbs : Climbs lower rungs) {rung : Bucket Rat}
    (member : rung ∈ rungs) : countFrom lower rungs rung.bound = rung.count := by
  induction rungs generalizing lower with
  | nil => cases member
  | cons upper rest ih =>
      rcases List.mem_cons.mp member with rfl | later
      · rw [countFrom_passed (le_refl _)]
        cases rest with
        | nil => rfl
        | cons next rest =>
            rw [countFrom_before (climbs.bound_lt List.mem_cons_self), if_pos (le_refl _)]
      · rw [countFrom_passed (climbs.bound_lt later).le]
        exact ih climbs.tail later

end Rungs

end SeriesQuery.Bucket

namespace SeriesQuery.Ladder

open Bucket

variable (ladder : Ladder)

/-- Observations at most a bound. -/
def countUpTo (bound : Rat) : Rat := countFrom ground ladder.rungs bound

theorem countBetween_exact {lower upper : Bucket Rat} (apart : lower.bound < upper.bound)
    (bound : Rat) : countBetween (exact lower) (exact upper) (.finite bound) =
      .finite (line lower.point upper.point bound) := by
  have width : upper.bound - lower.bound ≠ 0 := by linarith
  simp only [countBetween, exact, Exact.finite_sub, Exact.finite_mul, Exact.finite_div width,
    Exact.finite_add]
  rfl

/-- The search for a bound ends at the first rung that reaches it. -/
theorem exists_rung {bound : Rat} (reached : ∃ rung ∈ ladder.rungs, bound ≤ rung.bound) :
    ∃ below upper above, ladder.rungs = below ++ upper :: above ∧
      (∀ rung ∈ below, rung.bound < bound) ∧ bound ≤ upper.bound ∧
      cutPosition (fun bucket => decide (bucket.bound < .finite bound))
        (ladder.rungs.map exact) = below.length := by
  have test (rung : Bucket Rat) :
      decide ((exact rung).bound < .finite bound) = decide (rung.bound < bound) :=
    decide_eq_decide.mpr Exact.finite_lt_iff
  rw [cutPosition_map]
  simp only [test]
  have settled : ladder.rungs.Pairwise fun a b =>
      decide (b.bound < bound) = true → decide (a.bound < bound) = true := by
    refine ladder.bounds.imp fun less passed => ?_
    rw [decide_eq_true_eq] at passed ⊢
    exact less.trans passed
  rcases reached with ⟨rung, member, reaches⟩
  rcases exists_cut settled ⟨rung, member, decide_eq_false (not_lt.mpr reaches)⟩ with
    ⟨below, upper, above, split, passed, failed, cut⟩
  exact ⟨below, upper, above, split, fun rung member => of_decide_eq_true (passed rung member),
    not_lt.mp (of_decide_eq_false failed), cut⟩

theorem countUpTo_beyond {front : List (Bucket Rat)} {last : Bucket Rat}
    (split : ladder.rungs = front ++ [last]) {bound : Rat} (beyond : last.bound ≤ bound) :
    ladder.countUpTo bound = last.count := by
  have passed : ∀ rung ∈ ladder.rungs, rung.bound ≤ bound := fun rung member =>
    (ladder.bound_le_last split member).trans beyond
  rw [countUpTo, ← List.append_nil ladder.rungs, countFrom_append passed, split,
    List.getLastD_concat]
  rfl

theorem countAtMost_buckets (bound : Rat) :
    countAtMost ladder.buckets (.finite bound) = .finite (ladder.countUpTo bound) := by
  unfold countAtMost
  rw [finite_buckets]
  rcases List.eq_nil_or_concat' ladder.rungs with nothing | ⟨front, last, split⟩
  · rw [countUpTo, nothing]
    rfl
  have final : (ladder.rungs.map exact).getLast? = some (exact last) := by
    rw [split, List.map_append, List.map_singleton, List.getLast?_concat]
  have member : last ∈ ladder.rungs := split ▸ List.mem_append_right front List.mem_cons_self
  simp only [final, exact_bound, exact_count, Exact.finite_le_iff]
  by_cases beyond : last.bound ≤ bound
  · rw [if_pos beyond, ladder.countUpTo_beyond split beyond]
  rcases ladder.exists_rung ⟨last, member, (not_le.mp beyond).le⟩ with
    ⟨below, upper, above, parted, passed, reaches, cut⟩
  have here : (ladder.rungs.map exact)[below.length]? = some (exact upper) := by simp [parted]
  have inside : upper ∈ ladder.rungs := by simp [parted]
  have onward : ladder.countUpTo bound =
      countFrom (below.getLastD ground) (upper :: above) bound := by
    rw [countUpTo, parted, countFrom_append fun rung member => (passed rung member).le]
  rw [if_neg beyond, cut, here, Option.getD_some, parted, List.map_append, before_exact]
  simp only [exact_bound, exact_count, Exact.finite_le_iff, Exact.finite_beq_iff]
  split_ifs with reached low
  · rw [← reached, countUpTo, ladder.climbs.countFrom_bound inside]
  · have before : bound < upper.bound := lt_of_le_of_ne reaches (Ne.symm reached)
    have early : bound ≤ (below.getLastD ground).bound := low.elim id before.le.trans
    rw [onward, countFrom_before before, if_pos early]
  · have before : bound < upper.bound := lt_of_le_of_ne reaches (Ne.symm reached)
    rw [not_or, not_le, not_le] at low
    rw [onward, countFrom_before before, if_neg (not_le.mpr low.1), countBetween_exact low.2]

/-- No count read off the rungs is above that of the last one. -/
theorem countUpTo_le_last {front : List (Bucket Rat)} {last : Bucket Rat}
    (split : ladder.rungs = front ++ [last]) (bound : Rat) :
    ladder.countUpTo bound ≤ last.count := by
  calc ladder.countUpTo bound
    _ ≤ ladder.countUpTo (max bound last.bound) := ladder.climbs.countFrom_mono (le_max_left _ _)
    _ = last.count := ladder.countUpTo_beyond split (le_max_right _ _)

theorem count_le_total_of_mem {rung : Bucket Rat} (member : rung ∈ ladder.rungs) :
    rung.count ≤ ladder.total :=
  ladder.count_le_total (List.mem_append_left _ (List.mem_map_of_mem member))

theorem countUpTo_le_total (bound : Rat) : ladder.countUpTo bound ≤ ladder.total := by
  rcases List.eq_nil_or_concat' ladder.rungs with nothing | ⟨front, last, split⟩
  · rw [countUpTo, nothing]
    exact ladder.total_nonneg
  · have member : last ∈ ladder.rungs := split ▸ List.mem_append_right front List.mem_cons_self
    exact (ladder.countUpTo_le_last split bound).trans (ladder.count_le_total_of_mem member)

end SeriesQuery.Ladder

namespace SeriesQuery.Bucket

/--
What counts read off buckets make: a distribution that grows with the bound, up to the count at the
largest finite bound.
-/
structure Cumulative (buckets : List (Bucket Exact)) (last : Bucket Exact) : Prop where
  mono : ∀ bound other : Rat, bound ≤ other →
    countAtMost buckets (.finite bound) ≤ countAtMost buckets (.finite other)
  nonneg : ∀ bound : Rat, .finite 0 ≤ countAtMost buckets (.finite bound)
  le_last : ∀ bound : Rat, countAtMost buckets (.finite bound) ≤ last.count
  last_le_total : last.count ≤ total buckets
  atBound : ∀ bucket ∈ buckets, Scalar.isFinite bucket.bound = true →
    countAtMost buckets bucket.bound = bucket.count
  beyond : ∀ bound : Rat, last.bound ≤ .finite bound →
    countAtMost buckets (.finite bound) = last.count
  between : ∀ front lower upper back, buckets = front ++ lower :: upper :: back →
    ∀ bound : Rat, lower.bound < .finite bound → .finite bound < upper.bound →
      lower.count ≤ countAtMost buckets (.finite bound) ∧
        countAtMost buckets (.finite bound) ≤ upper.count

/-- What is above a threshold: all observations but those up to it, and fewer above a larger one. -/
structure Complements (buckets : List (Bucket Exact)) : Prop where
  above : ∀ bound : Rat, ∃ atMost,
    evaluateThreshold? buckets ⟨.finite bound, .atMost⟩ = some atMost ∧
      evaluateThreshold? buckets ⟨.finite bound, .above⟩ = some (total buckets - atMost) ∧
      .finite 0 ≤ total buckets - atMost
  anti : ∀ bound other : Rat, bound ≤ other → ∀ count fewer,
    evaluateThreshold? buckets ⟨.finite bound, .above⟩ = some count →
    evaluateThreshold? buckets ⟨.finite other, .above⟩ = some fewer → fewer ≤ count

section Threshold

variable {V : Type} [Scalar V] {buckets : List (Bucket V)} {threshold : Threshold V}

theorem evaluateThreshold?_of_ne_nil (filled : buckets ≠ []) :
    evaluateThreshold? buckets threshold = some (match threshold.comparison with
      | .atMost => countAtMost buckets threshold.bound
      | .above => total buckets - countAtMost buckets threshold.bound) := by
  rw [evaluateThreshold?, if_neg fun empty => filled (List.isEmpty_iff.mp empty)]
  cases threshold.comparison <;> rfl

theorem evaluateThreshold?_eq_none_iff :
    evaluateThreshold? buckets threshold = none ↔ buckets = [] := by
  constructor
  · intro missing
    apply Classical.byContradiction
    intro filled
    rw [evaluateThreshold?_of_ne_nil filled] at missing
    cases missing
  · rintro rfl
    rfl

end Threshold

end SeriesQuery.Bucket

namespace SeriesQuery.Ladder

open Bucket

variable (ladder : Ladder)

theorem cumulative {front : List (Bucket Rat)} {last : Bucket Rat}
    (split : ladder.rungs = front ++ [last]) : Cumulative ladder.buckets (exact last) := by
  have climbs := ladder.climbs
  have member : last ∈ ladder.rungs := split ▸ List.mem_append_right front List.mem_cons_self
  constructor
  case mono =>
    intro bound other le
    rw [countAtMost_buckets, countAtMost_buckets, Exact.finite_le_iff]
    exact climbs.countFrom_mono le
  case nonneg =>
    intro bound
    rw [countAtMost_buckets, Exact.finite_le_iff]
    exact climbs.count_le_countFrom bound
  case le_last =>
    intro bound
    rw [countAtMost_buckets, exact_count, Exact.finite_le_iff]
    exact ladder.countUpTo_le_last split bound
  case last_le_total =>
    rw [total_buckets, exact_count, Exact.finite_le_iff]
    exact ladder.count_le_total_of_mem member
  case atBound =>
    intro bucket held finite
    rcases ladder.mem_buckets.mp held with ⟨rung, inside, rfl⟩ | ⟨count, -, rfl⟩
    · rw [exact_bound, exact_count, countAtMost_buckets, countUpTo, climbs.countFrom_bound inside]
    · cases finite
  case beyond =>
    intro bound after
    rw [exact_bound, Exact.finite_le_iff] at after
    rw [countAtMost_buckets, exact_count, ladder.countUpTo_beyond split after]
  case between =>
    intro front lower upper back parted bound after before
    rw [countAtMost_buckets]
    have heldLower : lower ∈ ladder.buckets := by simp [parted]
    have heldUpper : upper ∈ ladder.buckets := by simp [parted]
    constructor
    · rcases ladder.mem_buckets.mp heldLower with ⟨rung, inside, rfl⟩ | ⟨count, -, rfl⟩
      · rw [exact_bound, Exact.finite_lt_iff] at after
        rw [exact_count, Exact.finite_le_iff, ← climbs.countFrom_bound inside]
        exact climbs.countFrom_mono after.le
      · cases after
    · rcases ladder.mem_buckets.mp heldUpper with ⟨rung, inside, rfl⟩ | ⟨count, top, rfl⟩
      · rw [exact_bound, Exact.finite_lt_iff] at before
        rw [exact_count, Exact.finite_le_iff, ← climbs.countFrom_bound inside]
        exact climbs.countFrom_mono before.le
      · rw [unbounded, Exact.finite_le_iff, ← ladder.total_of_top top]
        exact ladder.countUpTo_le_total bound

theorem evaluateThreshold?_above (filled : ladder.buckets ≠ []) (bound : Rat) :
    evaluateThreshold? ladder.buckets ⟨.finite bound, .above⟩ =
      some (.finite (ladder.total - ladder.countUpTo bound)) := by
  rw [evaluateThreshold?_of_ne_nil filled, countAtMost_buckets, total_buckets, Exact.finite_sub]

theorem complements (filled : ladder.buckets ≠ []) : Complements ladder.buckets := by
  constructor
  case above =>
    intro bound
    refine ⟨_, evaluateThreshold?_of_ne_nil filled, evaluateThreshold?_of_ne_nil filled, ?_⟩
    rw [countAtMost_buckets, total_buckets, Exact.finite_sub, Exact.finite_le_iff]
    exact sub_nonneg.mpr (ladder.countUpTo_le_total bound)
  case anti =>
    intro bound other le count fewer here there
    rw [ladder.evaluateThreshold?_above filled] at here there
    obtain rfl := Option.some.inj here
    obtain rfl := Option.some.inj there
    rw [Exact.finite_le_iff]
    exact sub_le_sub_left (ladder.climbs.countFrom_mono le) _

end SeriesQuery.Ladder

namespace SeriesQuery.Bucket

theorem countAtMost_cumulative (raw : List (Bucket Exact)) :
    (∀ threshold, evaluateThreshold? (prepare raw) threshold = none ↔ prepare raw = []) ∧
    (Proper (prepare raw) → (∃ bucket ∈ prepare raw, Scalar.isFinite bucket.bound = true) →
      (∃ last, LastFinite (prepare raw) last ∧ Cumulative (prepare raw) last) ∧
        Complements (prepare raw)) := by
  refine ⟨fun threshold => evaluateThreshold?_eq_none_iff, ?_⟩
  intro proper bounded
  rcases Ladder.exists_buckets_eq proper with ⟨ladder, same⟩
  rw [← same] at bounded ⊢
  rcases ladder.exists_last bounded with ⟨front, last, split⟩
  have filled : ladder.buckets ≠ [] := List.ne_nil_of_mem (ladder.lastFinite split).member
  exact ⟨⟨exact last, ladder.lastFinite split, ladder.cumulative split⟩,
    ladder.complements filled⟩

theorem countAtMost_cumulative_shuffled :
    Proper (prepare shuffled) ∧ exact ⟨5, 5⟩ ∈ prepare shuffled ∧
      (∃ last, LastFinite (prepare shuffled) last ∧ Cumulative (prepare shuffled) last) ∧
      Complements (prepare shuffled) ∧
      countAtMost (prepare shuffled) (.finite (3 / 2)) = .finite 3 := by
  have whole := (countAtMost_cumulative shuffled).2 proper_shuffled ⟨_, mem_prepare_shuffled, rfl⟩
  refine ⟨proper_shuffled, mem_prepare_shuffled, whole.1, whole.2, ?_⟩
  rw [prepare_shuffled]
  decide +kernel

end SeriesQuery.Bucket
