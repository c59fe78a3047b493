import SeriesQuery.Proofs.Search
import SeriesQuery.Proofs.Bucket.RunningMaximum
import SeriesQuery.Proofs.Double.Arithmetic
/-!
The buckets between which a look-up interpolates. Both have finite bounds, in order, and so what is
read off them is a number, unless the buckets begin at the negative infinity and have a finite bound
as well: the search for the last finite bound does not look at the first bucket then.
-/
namespace SeriesQuery.Bucket

open Scalar.Ranked

section Readings

variable {V : Type}

/-- What a look-up finds: a value, or two buckets with a line between them. -/
inductive Reading (V : Type) where
  | known (value : V)
  | between (lower upper : Bucket V)

def Reading.value (line : Bucket V → Bucket V → V) : Reading V → V
  | known value => value
  | between lower upper => line lower upper

variable [Scalar V]

def countReading (buckets : List (Bucket V)) (bound : V) : Reading V :=
  let finite := finite buckets
  match finite.getLast? with
  | none => .known (Scalar.ofNat 0)
  | some last =>
    if last.bound ≤ bound then .known last.count
    else
      let position := cutPosition (fun bucket => decide (bucket.bound < bound)) finite
      let upper := finite[position]?.getD last
      let lower := before finite position
      if upper.bound == bound then .known upper.count
      else if bound ≤ lower.bound ∨ upper.bound ≤ lower.bound then .known lower.count
      else .between lower upper

theorem countAtMost_eq (buckets : List (Bucket V)) (bound : V) :
    countAtMost buckets bound =
      (countReading buckets bound).value fun lower upper => countBetween lower upper bound := by
  unfold countAtMost countReading
  dsimp only
  cases (finite buckets).getLast? with
  | none => rfl
  | some last =>
      dsimp only
      split_ifs <;> rfl

/-- The number of observations below a quantile. -/
def rank (buckets : List (Bucket V)) (part : V) : V :=
  Scalar.clamp (Scalar.ofNat 0) (Scalar.ofNat 1) part * total buckets

def quantileReading? (buckets : List (Bucket V)) (part : V) : Option (Reading V) := do
  let last ← buckets.getLast?
  if total buckets ≤ Scalar.ofNat 0 then none
  let position :=
    min (cutPosition (fun bucket => decide (bucket.count < rank buckets part)) buckets)
      (buckets.length - 1)
  let upper := buckets[position]?.getD last
  let lower := before buckets position
  if !Scalar.isFinite upper.bound then (lastFiniteBound? buckets position).map .known
  else if upper.count ≤ lower.count then some (.known upper.bound)
  else some (.between lower upper)

theorem quantile?_eq_map (buckets : List (Bucket V)) (part : V) :
    quantile? buckets part = (quantileReading? buckets part).map fun reading =>
      reading.value fun lower upper => boundBetween lower upper (rank buckets part) := by
  unfold quantile? quantileReading? rank
  cases buckets.getLast? with
  | none => rfl
  | some last =>
      by_cases nothing : total buckets ≤ Scalar.ofNat 0
      · simp only [Option.bind_eq_bind, Option.bind_some, if_pos nothing]
        rfl
      · simp only [Option.bind_eq_bind, Option.bind_some, if_neg nothing]
        split_ifs
        · rw [Option.map_map]
          exact (Option.map_id_apply).symm
        · rfl
        · rfl

end Readings

section Slice

variable {V : Type} [Scalar V] [Scalar.Ranked V] {buckets given : List (Bucket V)}

/-- Whether the buckets begin at the negative infinity and have a finite bound as well. -/
def Bottomless {V : Type} [Scalar V] (buckets : List (Bucket V)) : Prop :=
  (∃ bucket ∈ buckets, (bucket.bound == -Scalar.infinity) = true) ∧
    ∃ bucket ∈ buckets, Scalar.isFinite bucket.bound = true

instance (buckets : List (Bucket V)) : Decidable (Bottomless buckets) :=
  inferInstanceAs (Decidable ((∃ bucket ∈ buckets, (bucket.bound == -Scalar.infinity) = true) ∧
    ∃ bucket ∈ buckets, Scalar.isFinite bucket.bound = true))

theorem isFinite_congr {a b : V} (same : (a == b) = true) :
    Scalar.isFinite a = Scalar.isFinite b := by
  rcases beq_iff.mp same with ⟨⟨number, number'⟩, place⟩
  rw [Bool.eq_iff_iff, isFinite_iff, isFinite_iff, number, number', place]

theorem bottomless_prepare [Std.TransCmp (Scalar.compareTotal : V → V → Ordering)]
    (bounded : Bounded given) : Bottomless (prepare given) ↔ Bottomless given := by
  constructor
  · rintro ⟨⟨low, member, sunken⟩, some, member', finite⟩
    rcases exists_given_prepare bounded member with ⟨other, held, same⟩
    rcases exists_given_prepare bounded member' with ⟨other', held', same'⟩
    exact ⟨⟨other, held, same ▸ sunken⟩, other', held', same' ▸ finite⟩
  · rintro ⟨⟨low, member, sunken⟩, some, member', finite⟩
    rcases exists_prepare bounded member with ⟨other, held, same⟩
    rcases exists_prepare bounded member' with ⟨other', held', same'⟩
    refine ⟨⟨other, held, beq_iff.mpr ⟨⟨(beq_iff.mp same).1.1, number_neg_infinity⟩, ?_⟩⟩, other',
      held', (isFinite_congr same').trans finite⟩
    exact (place_eq_of_beq same).trans (place_eq_of_beq sunken)

theorem isFinite_of_lt {a b : V} (number : Scalar.isNaN a = false)
    (above : ¬ (a == -Scalar.infinity) = true) (less : place a < place b)
    (finite : Scalar.isFinite b = true) : Scalar.isFinite a = true := by
  refine isFinite_iff.mpr ⟨number, lt_of_le_of_ne (neg_infinity_le number) fun same => ?_,
    less.trans (isFinite_iff.mp finite).2.2⟩
  exact above (beq_iff.mpr ⟨⟨number, number_neg_infinity⟩, same.symm⟩)

/-- Without such a beginning the finite bounds come first. -/
theorem finite_eq_filter (bounded : Bounded buckets) (increasing : Increasing buckets)
    (grounded : ¬ Bottomless buckets) :
    finite buckets = buckets.filter fun bucket => Scalar.isFinite bucket.bound := by
  refine take_cutPosition (increasing.imp_of_mem fun {a b} first second less held => ?_)
  have above (sunken : (a.bound == -Scalar.infinity) = true) : False :=
    grounded ⟨⟨a, first, sunken⟩, b, second, held⟩
  exact isFinite_of_lt (bounded a first) above less held

/-- Above the negative infinity all bounds but perhaps the last one are finite. -/
theorem exists_finite_append (bounded : Bounded buckets) (increasing : Increasing buckets)
    (floats : ∀ bucket ∈ buckets, place (-Scalar.infinity) < place bucket.bound) {some : Bucket V}
    (member : some ∈ buckets) (finite : Scalar.isFinite some.bound = true) :
    ∃ below beyond, buckets = below ++ beyond ∧ below ≠ [] ∧ beyond.length ≤ 1 ∧
      (∀ bucket ∈ below, Scalar.isFinite bucket.bound = true) ∧
      ∀ bucket ∈ beyond, Scalar.isFinite bucket.bound = false := by
  have settled : buckets.Pairwise fun a b =>
      Scalar.isFinite b.bound = true → Scalar.isFinite a.bound = true :=
    increasing.imp_of_mem fun {a b} first _ less => isFinite_of_lt (bounded a first)
      (fun sunken => (floats a first).ne' (place_eq_of_beq sunken)) less
  by_cases fails : ∃ bucket ∈ buckets, Scalar.isFinite bucket.bound = false
  · rcases exists_cut settled fails with ⟨below, top, more, rfl, holds, failed, -⟩
    have inTop : top ∈ below ++ top :: more := List.mem_append_right _ List.mem_cons_self
    have highest : place Scalar.infinity ≤ place top.bound := by
      rw [← not_lt]
      intro less
      have := isFinite_iff.mpr ⟨bounded top inTop, floats top inTop, less⟩
      rw [failed] at this
      cases this
    -- Nothing comes after the positive infinity.
    obtain rfl : more = [] := by
      refine List.eq_nil_iff_forall_not_mem.mpr fun bucket held => ?_
      have less := (List.pairwise_cons.mp (List.pairwise_append.mp increasing).2.1).1 bucket held
      have least := le_infinity (bounded bucket
        (List.mem_append_right _ (List.mem_cons_of_mem _ held)))
      exact (highest.trans_lt less).not_ge least
    have early : some ∈ below := by
      rcases List.mem_append.mp member with early | same
      · exact early
      · rw [List.mem_singleton.mp same, failed] at finite
        cases finite
    exact ⟨below, [top], rfl, List.ne_nil_of_mem early, le_refl _, holds, fun bucket same =>
      List.mem_singleton.mp same ▸ failed⟩
  · refine ⟨buckets, [], (List.append_nil _).symm, List.ne_nil_of_mem member, Nat.zero_le _, ?_,
      nofun⟩
    intro bucket held
    rw [← Bool.not_eq_false]
    exact fun failed => fails ⟨bucket, held, failed⟩

/-- With such a beginning the search takes the first bucket along. -/
theorem finite_ne_filter (bounded : Bounded buckets) (increasing : Increasing buckets)
    (bottomless : Bottomless buckets) :
    finite buckets ≠ buckets.filter fun bucket => Scalar.isFinite bucket.bound := by
  rcases bottomless with ⟨⟨low, member, sunken⟩, some, member', held⟩
  have lowest := place_eq_of_beq sunken
  cases buckets with
  | nil => cases member
  | cons first rest =>
      rcases List.pairwise_cons.mp increasing with ⟨above, tail⟩
      have number (bucket : Bucket V) (inside : bucket ∈ rest) :=
        bounded bucket (List.mem_cons_of_mem _ inside)
      obtain rfl : low = first := by
        rcases List.mem_cons.mp member with same | later
        · exact same
        · have less := above low later
          rw [lowest] at less
          exact absurd (neg_infinity_le (bounded first List.mem_cons_self)) less.not_ge
      have infinite : ¬ Scalar.isFinite low.bound = true := fun finite =>
        (isFinite_iff.mp finite).2.1.ne' lowest
      have inside : some ∈ rest := by
        rcases List.mem_cons.mp member' with rfl | later
        · exact absurd held infinite
        · exact later
      have floats (bucket : Bucket V) (held : bucket ∈ rest) :
          place (-Scalar.infinity) < place bucket.bound := lowest ▸ above bucket held
      obtain ⟨below, beyond, rfl, filled, few, holds, fails⟩ :=
        exists_finite_append number tail floats inside held
      intro same
      rw [finite, cutPosition_cons filled few holds fails, List.take_succ_cons] at same
      have kept : low ∈ (low :: (below ++ beyond)).filter
          fun bucket => Scalar.isFinite bucket.bound := same ▸ List.mem_cons_self
      exact infinite (List.mem_filter.mp kept).2

end Slice

section Counts

variable {V : Type} [Scalar V] [Scalar.Ranked V] {buckets : List (Bucket V)}

omit [Scalar.Ranked V] in
/-- The bucket before a position has a finite bound if those of the list do. -/
theorem isFinite_before {below above : List (Bucket V)}
    (zero : Scalar.isFinite (Scalar.ofNat 0 : V) = true)
    (finite : ∀ bucket ∈ below, Scalar.isFinite bucket.bound = true) :
    Scalar.isFinite (before (below ++ above) below.length).bound = true := by
  rw [before_append]
  cases last : below.getLast? with
  | none => exact zero
  | some bucket => exact finite bucket (List.mem_of_getLast? last)

/-- Up to a bucket with a finite bound all bounds are finite. -/
theorem isFinite_below (bounded : Bounded buckets) (increasing : Increasing buckets)
    (grounded : ¬ Bottomless buckets) {below above : List (Bucket V)} {first : Bucket V}
    (split : buckets = below ++ first :: above) (finite : Scalar.isFinite first.bound = true) :
    ∀ bucket ∈ below, Scalar.isFinite bucket.bound = true := by
  subst split
  intro bucket held
  have listed : bucket ∈ below ++ first :: above := List.mem_append_left _ held
  have member : first ∈ below ++ first :: above := List.mem_append_right _ List.mem_cons_self
  have raised (sunken : (bucket.bound == -Scalar.infinity) = true) : False :=
    grounded ⟨⟨bucket, listed, sunken⟩, first, member, finite⟩
  exact isFinite_of_lt (bounded bucket listed) raised
    ((List.pairwise_append.mp increasing).2.2 bucket held first List.mem_cons_self) finite

/-- The search by bounds ends at the first one that is not below the given one. -/
theorem exists_cut_bound {bound : V} (bounded : Bounded buckets) (increasing : Increasing buckets)
    (number : Scalar.isNaN bound = false) {top : Bucket V} (inside : top ∈ buckets)
    (short : ¬ top.bound ≤ bound) :
    ∃ below first above, buckets = below ++ first :: above ∧ ¬ first.bound < bound ∧
      cutPosition (fun bucket => decide (bucket.bound < bound)) buckets = below.length := by
  have settled : buckets.Pairwise fun a b =>
      decide (b.bound < bound) = true → decide (a.bound < bound) = true := by
    refine increasing.imp_of_mem fun {a b} first _ less passed => ?_
    have below := (lt_iff.mp (of_decide_eq_true passed)).2
    exact decide_eq_true (lt_iff.mpr ⟨⟨bounded a first, number⟩, less.trans below⟩)
  have ahead := lt_of_not_le number (bounded top inside) short
  have fails : decide (top.bound < bound) = false :=
    decide_eq_false fun less => (lt_iff.mp less).2.not_gt (lt_iff.mp ahead).2
  rcases exists_cut settled ⟨top, inside, fails⟩ with
    ⟨below, first, above, split, -, failed, cut⟩
  exact ⟨below, first, above, split, of_decide_eq_false failed, cut⟩

/-- Where a count is interpolated, finite bounds on both sides are in order. -/
theorem countReading_between (bounded : Bounded buckets) (increasing : Increasing buckets)
    (zero : Scalar.isFinite (Scalar.ofNat 0 : V) = true) (grounded : ¬ Bottomless buckets)
    {bound : V} (number : Scalar.isNaN bound = false) {lower upper : Bucket V}
    (between : countReading buckets bound = .between lower upper) :
    (Scalar.isFinite lower.bound = true ∧ Scalar.isFinite upper.bound = true) ∧
      lower.bound < bound ∧ bound < upper.bound := by
  have held : ∀ bucket ∈ finite buckets, Scalar.isFinite bucket.bound = true := by
    rw [finite_eq_filter bounded increasing grounded]
    exact fun bucket member => (List.mem_filter.mp member).2
  have ordered : Increasing (finite buckets) := increasing.sublist (List.take_sublist _ _)
  unfold countReading at between
  dsimp only at between
  generalize finite buckets = slice at *
  have numbers : Bounded slice := fun bucket member => number_of_isFinite (held bucket member)
  cases last : slice.getLast? with
  | none =>
      rw [last] at between
      cases between
  | some top =>
      rw [last] at between
      dsimp only at between
      split at between
      · cases between
      · rename_i short
        rcases exists_cut_bound numbers ordered number (List.mem_of_getLast? last) short with
          ⟨below, first, above, rfl, reached, cut⟩
        rw [cut, List.getElem?_append_right (le_refl _), Nat.sub_self, List.getElem?_cons_zero,
          Option.getD_some] at between
        split_ifs at between with same stays
        obtain ⟨rfl, rfl⟩ := Reading.between.inj between
        have finite' := held first (List.mem_append_right _ List.mem_cons_self)
        have finite : Scalar.isFinite
            (before (below ++ first :: above) below.length).bound = true :=
          isFinite_before zero fun bucket member => held bucket (List.mem_append_left _ member)
        refine ⟨⟨finite, finite'⟩,
          lt_of_not_le (number_of_isFinite finite) number fun le => stays (.inl le), ?_⟩
        refine lt_of_not_le number (number_of_isFinite finite') fun le => ?_
        rcases (le_iff.mp le).2.lt_or_eq with less | equal
        · exact reached (lt_iff.mpr ⟨(le_iff.mp le).1, less⟩)
        · exact same (beq_iff.mpr ⟨(le_iff.mp le).1, equal⟩)

omit [Scalar.Ranked V] in
/-- A quantile is interpolated up to a bucket with a finite bound that counts more than before. -/
theorem quantileReading?_eq_between {part : V} {lower upper : Bucket V}
    (between : quantileReading? buckets part = some (.between lower upper)) :
    ∃ below above, buckets = below ++ upper :: above ∧ lower = before buckets below.length ∧
      Scalar.isFinite upper.bound = true ∧ ¬ upper.count ≤ lower.count := by
  unfold quantileReading? at between
  cases last : buckets.getLast? with
  | none =>
      rw [last] at between
      cases between
  | some top =>
      have filled : 0 < buckets.length :=
        List.length_pos_iff.mpr (List.ne_nil_of_mem (List.mem_of_getLast? last))
      by_cases nothing : total buckets ≤ Scalar.ofNat 0
      · simp only [last, Option.bind_eq_bind, Option.bind_some, if_pos nothing] at between
        cases between
      · generalize found : min (cutPosition (fun bucket =>
          decide (bucket.count < rank buckets part)) buckets) (buckets.length - 1) = position
          at between
        have inside : position < buckets.length := by omega
        simp only [last, Option.bind_eq_bind, Option.bind_some, if_neg nothing,
          List.getElem?_eq_getElem inside, Option.getD_some] at between
        split_ifs at between with infinite flat
        · rcases Option.map_eq_some_iff.mp between with ⟨bound, -, known⟩
          cases known
        · cases between
        · obtain ⟨rfl, rfl⟩ := Reading.between.inj (Option.some.inj between)
          rw [Bool.not_eq_true', Bool.not_eq_false] at infinite
          refine ⟨buckets.take position, buckets.drop (position + 1), by simp, ?_, infinite, flat⟩
          rw [List.length_take_of_le inside.le]

/-- Where a quantile is interpolated, bounds on both sides are finite and the count grows. -/
theorem quantileReading?_between (bounded : Bounded buckets) (increasing : Increasing buckets)
    (zero : Scalar.isFinite (Scalar.ofNat 0 : V) = true) (grounded : ¬ Bottomless buckets)
    {part : V} {lower upper : Bucket V}
    (between : quantileReading? buckets part = some (.between lower upper)) :
    (Scalar.isFinite lower.bound = true ∧ Scalar.isFinite upper.bound = true) ∧
      ¬ upper.count ≤ lower.count ∧ upper ∈ buckets ∧
      (lower ∈ buckets ∨ lower = ⟨Scalar.ofNat 0, Scalar.ofNat 0⟩) := by
  rcases quantileReading?_eq_between between with ⟨below, above, split, rfl, finite, steep⟩
  have lowers := isFinite_below bounded increasing grounded split finite
  subst split
  refine ⟨⟨isFinite_before zero lowers, finite⟩, steep,
    List.mem_append_right _ List.mem_cons_self, ?_⟩
  rw [before_append]
  cases previous : below.getLast? with
  | none => exact .inr rfl
  | some bucket => exact .inl (List.mem_append_left _ (List.mem_of_getLast? previous))

end Counts

section Doubles

/-- Two buckets between which a count is read off, and what the line between them gives. -/
structure CountFrame (buckets : List (Bucket Float)) (bound : Float)
    (lower upper : Bucket Float) : Prop where
  value : countAtMost buckets bound = countBetween lower upper bound
  finite : lower.bound.isFinite = true ∧ upper.bound.isFinite = true
  inside : lower.bound < bound ∧ bound < upper.bound
  divisor : 0 < upper.bound - lower.bound
  narrow : 0 ≤ lower.bound → (upper.bound - lower.bound).isFinite = true
  number : (upper.bound - lower.bound).isFinite = true → lower.count.isFinite = true →
    upper.count.isFinite = true → (countAtMost buckets bound).isNaN = false

/-- Two buckets between which a quantile is read off, and what the line between them gives. -/
structure QuantileFrame (buckets : List (Bucket Float)) (part : Float)
    (lower upper : Bucket Float) : Prop where
  value : quantile? buckets part = some (boundBetween lower upper (rank buckets part))
  finite : lower.bound.isFinite = true ∧ upper.bound.isFinite = true
  grows : lower.count.isNaN = false → upper.count.isNaN = false → lower.count < upper.count
  divisor : lower.count.isFinite = true → upper.count.isFinite = true →
    0 < upper.count - lower.count
  narrow : (∀ bucket ∈ buckets, bucket.count.isFinite = true ∧ 0 ≤ bucket.count) →
    (upper.count - lower.count).isFinite = true
  number : (upper.bound - lower.bound).isFinite = true →
    (∀ bucket ∈ buckets, bucket.count.isFinite = true ∧ 0 ≤ bucket.count) →
    (quantile? buckets part).any (·.isNaN) = false

/--
The finite bounds come first, and all that is interpolated lies between two of them, or between
zero and one of them.
-/
structure Framed (buckets : List (Bucket Float)) : Prop where
  finite : finite buckets = buckets.filter fun bucket => bucket.bound.isFinite
  count : ∀ bound : Float, bound.isFinite = true → ∀ lower upper,
    countReading buckets bound = .between lower upper → CountFrame buckets bound lower upper
  quantile : ∀ part : Float, 0 ≤ part → part ≤ 1 → ∀ lower upper,
    quantileReading? buckets part = some (.between lower upper) →
      QuantileFrame buckets part lower upper

theorem countFrame {buckets : List (Bucket Float)} {bound : Float} {lower upper : Bucket Float}
    (between : countReading buckets bound = .between lower upper) (number : bound.isFinite = true)
    (finite : lower.bound.isFinite = true ∧ upper.bound.isFinite = true)
    (inside : lower.bound < bound ∧ bound < upper.bound) :
    CountFrame buckets bound lower upper := by
  rcases lt_iff.mp inside.1 with ⟨numbers, below⟩
  rcases lt_iff.mp inside.2 with ⟨numbers', above⟩
  have apart : lower.bound < upper.bound :=
    lt_iff.mpr ⟨⟨numbers.1, numbers'.2⟩, below.trans above⟩
  have divisor := Double.sub_pos finite.1 finite.2 apart
  have value : countAtMost buckets bound = countBetween lower upper bound := by
    rw [countAtMost_eq, between]
    rfl
  refine ⟨value, finite, inside, divisor, fun nonneg => ?_, fun width lowest highest => ?_⟩
  · have nonneg' : 0 ≤ upper.bound := le_iff.mpr
      ⟨⟨rfl, numbers'.2⟩, (le_iff.mp nonneg).2.trans (below.trans above).le⟩
    exact Double.isFinite_sub_of_nonneg finite.2 finite.1 nonneg' nonneg
  have part : (bound - lower.bound).isFinite = true :=
    Double.isFinite_sub_of_le finite.1 number finite.2 (le_iff.mpr ⟨numbers, below.le⟩)
      (le_iff.mpr ⟨numbers', above.le⟩) width
  have height : (upper.count - lower.count).isNaN = false :=
    (Double.rounded_value_sub highest lowest).number
  have area := Double.isNaN_mul height part (Double.sub_pos finite.1 number inside.1)
  rw [value]
  exact Double.isNaN_add lowest (Double.isNaN_div area width divisor)

theorem clamp_part {part : Float} (low : 0 ≤ part) (high : part ≤ 1) :
    Scalar.clamp (Scalar.ofNat 0) (Scalar.ofNat 1) part = part := by
  have least : ¬ part < 0 := fun less => (le_iff.mp low).2.not_gt (lt_iff.mp less).2
  have most : ¬ 1 < part := fun more => (le_iff.mp high).2.not_gt (lt_iff.mp more).2
  rw [Scalar.clamp]
  exact (if_neg least).trans (if_neg most)

theorem quantileFrame {buckets : List (Bucket Float)} {part : Float} {lower upper : Bucket Float}
    (between : quantileReading? buckets part = some (.between lower upper)) (low : 0 ≤ part)
    (high : part ≤ 1)
    (finite : lower.bound.isFinite = true ∧ upper.bound.isFinite = true)
    (steep : ¬ upper.count ≤ lower.count) (member : upper ∈ buckets)
    (before : lower ∈ buckets ∨ lower = ⟨0, 0⟩) : QuantileFrame buckets part lower upper := by
  have grows (number : lower.count.isNaN = false) (number' : upper.count.isNaN = false) :
      lower.count < upper.count := lt_of_not_le number number' steep
  have divisor (lowest : lower.count.isFinite = true) (highest : upper.count.isFinite = true) :
      0 < upper.count - lower.count :=
    Double.sub_pos lowest highest
      (grows (Double.isNaN_of_isFinite lowest) (Double.isNaN_of_isFinite highest))
  have lowest (counts : ∀ bucket ∈ buckets, bucket.count.isFinite = true ∧ 0 ≤ bucket.count) :
      lower.count.isFinite = true ∧ 0 ≤ lower.count := by
    rcases before with held | rfl
    · exact counts lower held
    · exact ⟨rfl, le_iff.mpr ⟨⟨rfl, rfl⟩, le_refl _⟩⟩
  have narrow (counts : ∀ bucket ∈ buckets, bucket.count.isFinite = true ∧ 0 ≤ bucket.count) :
      (upper.count - lower.count).isFinite = true :=
    Double.isFinite_sub_of_nonneg (counts upper member).1 (lowest counts).1
      (counts upper member).2 (lowest counts).2
  have value : quantile? buckets part = some (boundBetween lower upper (rank buckets part)) := by
    rw [quantile?_eq_map, between]
    rfl
  refine ⟨value, finite, grows, divisor, narrow, fun width counts => ?_⟩
  obtain ⟨whole, positive⟩ : (total buckets).isFinite = true ∧ 0 ≤ total buckets := by
    rw [total]
    cases last : buckets.getLast? with
    | none =>
        rw [List.getLast?_eq_none_iff.mp last] at member
        cases member
    | some top => exact counts top (List.mem_of_getLast? last)
  obtain ⟨rankFinite, rankLow⟩ : (rank buckets part).isFinite = true ∧ 0 ≤ rank buckets part := by
    rw [rank, clamp_part low high]
    exact Double.part_mul low high whole positive
  have height := Double.isFinite_sub_of_nonneg rankFinite (lowest counts).1 rankLow
    (lowest counts).2
  have area : ((upper.bound - lower.bound) * (rank buckets part - lower.count)).isNaN = false :=
    (Double.rounded_value_mul width height).number
  rw [value]
  exact Double.isNaN_add finite.1 (Double.isNaN_div area (narrow counts)
    (divisor (lowest counts).1 (counts upper member).1))

theorem framed_of_not_bottomless {buckets : List (Bucket Float)} (bounded : Bounded buckets)
    (increasing : Increasing buckets) (grounded : ¬ Bottomless buckets) : Framed buckets := by
  constructor
  · exact finite_eq_filter bounded increasing grounded
  · intro bound number lower upper between
    rcases countReading_between bounded increasing rfl grounded
      (Double.isNaN_of_isFinite number) between with ⟨finite, inside⟩
    exact countFrame between number finite inside
  · intro part low high lower upper between
    rcases quantileReading?_between bounded increasing rfl grounded between with
      ⟨finite, steep, member, before⟩
    exact quantileFrame between low high finite steep member before

/--
What is read off prepared buckets is framed by finite bounds just when they do not begin at the
negative infinity with a finite bound above it.
-/
theorem framed_prepare_iff (given : List (Bucket Float))
    (bounded : ∀ bucket ∈ given, bucket.bound.isNaN = false) :
    Framed (prepare given) ↔ ¬ Bottomless given := by
  have increasing := increasing_prepare bounded
  rw [← bottomless_prepare bounded]
  constructor
  · intro framed bottomless
    exact finite_ne_filter (bounded_prepare bounded) increasing bottomless framed.finite
  · exact framed_of_not_bottomless (bounded_prepare bounded) increasing

/-- A finite bound above the negative infinity. -/
def endless : List (Bucket Float) := [⟨-Scalar.infinity, 0⟩, ⟨1, 10⟩]

/-- Bounds further apart than the greatest double. -/
def wide : List (Bucket Float) := [⟨-1.7e308, 0⟩, ⟨1.7e308, 10⟩]

theorem framed_prepare_mixed :
    (∀ bucket ∈ mixed, bucket.bound.isNaN = false) ∧ ¬ Bottomless mixed ∧
      Framed (prepare mixed) ∧ (∀ bucket ∈ endless, bucket.bound.isNaN = false) ∧
      Bottomless endless ∧ ¬ Framed (prepare endless) := by
  have bounded : ∀ bucket ∈ mixed, bucket.bound.isNaN = false := by decide
  have bounded' : ∀ bucket ∈ endless, bucket.bound.isNaN = false := by decide
  have grounded : ¬ Bottomless mixed := by decide
  have bottomless : Bottomless endless := by decide
  exact ⟨bounded, grounded, (framed_prepare_iff mixed bounded).mpr grounded, bounded', bottomless,
    fun framed => (framed_prepare_iff endless bounded').mp framed bottomless⟩

theorem prepare_endless : prepare endless = endless :=
  prepare_of_steady (by decide) (by decide) (by decide)

theorem prepare_wide : prepare wide = wide :=
  prepare_of_steady (by decide +kernel) (by decide +kernel) (by decide)

/-- Finite counts are read off as no number, where a bound is infinite and where a difference is. -/
theorem undefined_endless :
    (readBound? "-Inf" : Option Float) = some (-Scalar.infinity) ∧ prepare endless = endless ∧
      (∀ bucket ∈ endless, bucket.count.isFinite = true) ∧
      ((finite endless).any fun bucket => !bucket.bound.isFinite) = true ∧
      (countAtMost endless 0.5).isNaN = true ∧
      ((quantile? endless 0.5).any fun bound => bound.isNaN) = true ∧
      prepare wide = wide ∧ (∀ bucket ∈ wide, bucket.count.isFinite = true) ∧
      (finite wide).length = 2 ∧ (countAtMost wide 1.5e308).isNaN = true := by
  refine ⟨by decide, prepare_endless, by decide, by decide +kernel,
    by decide +kernel, by decide +kernel, prepare_wide, by decide, by decide +kernel,
    by decide +kernel⟩

end Doubles

end SeriesQuery.Bucket
