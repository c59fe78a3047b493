import Mathlib.Data.List.Basic
import SeriesQuery.Bucket
import SeriesQuery.Proofs.Order
import SeriesQuery.Proofs.Ranked
/-!
Preparing buckets, pass by pass. Sorted buckets ascend in bound; joined, they increase and hold what
the buckets of one bound count together; raised, they hold the greatest count so far.
-/
namespace SeriesQuery.Bucket

open Scalar.Ranked

section Listing

variable {V : Type} [Scalar V]

/-- Buckets in the order of their bounds; where bounds tie they stay as they were. -/
def sorted (buckets : List (Bucket V)) : List (Bucket V) :=
  buckets.mergeSort fun a b => Scalar.compareTotal a.bound b.bound != .gt

/-- What the buckets with a bound count together, added up from the first one on. -/
def countAt? (buckets : List (Bucket V)) (bound : V) : Option V :=
  match (buckets.filter fun bucket => bucket.bound == bound).map (·.count) with
  | [] => none
  | first :: rest => some (rest.foldl (· + ·) first)

/-- Joined buckets have no other bounds than those they are joined of. -/
theorem mem_joinOnto {kept : Bucket V} {rest : List (Bucket V)} {bucket : Bucket V}
    (member : bucket ∈ joinOnto kept rest) :
    ∃ other ∈ kept :: rest, bucket.bound = other.bound := by
  induction rest generalizing kept with
  | nil => exact ⟨bucket, member, rfl⟩
  | cons next rest ih =>
      rw [joinOnto] at member
      split at member
      · rcases ih member with ⟨other, held, same⟩
        rcases List.mem_cons.mp held with rfl | held
        · exact ⟨kept, List.mem_cons_self, same⟩
        · exact ⟨other, List.mem_cons_of_mem _ (List.mem_cons_of_mem _ held), same⟩
      · rcases List.mem_cons.mp member with rfl | member
        · exact ⟨bucket, List.mem_cons_self, rfl⟩
        · rcases ih member with ⟨other, held, same⟩
          exact ⟨other, List.mem_cons_of_mem _ held, same⟩

/-- Joining makes an order of bounds strict, if the order is strict on bounds that are apart. -/
theorem pairwise_joinOnto {ascends exceeds : V → V → Prop}
    (apart : ∀ {a b : V}, ascends a b → ¬ (b == a) = true → exceeds a b)
    (trans : ∀ {a b c : V}, exceeds a b → ascends b c → exceeds a c)
    {kept : Bucket V} {rest : List (Bucket V)}
    (sorted : (kept :: rest).Pairwise fun a b => ascends a.bound b.bound) :
    (joinOnto kept rest).Pairwise fun a b => exceeds a.bound b.bound := by
  induction rest generalizing kept with
  | nil => exact List.pairwise_singleton _ _
  | cons next rest ih =>
      rcases List.pairwise_cons.mp sorted with ⟨first, tail⟩
      rcases List.pairwise_cons.mp tail with ⟨second, others⟩
      rw [joinOnto]
      split
      · exact ih (List.pairwise_cons.mpr
          ⟨fun other member => first other (List.mem_cons_of_mem _ member), others⟩)
      · rename_i differ
        have beyond := apart (first next List.mem_cons_self) differ
        refine List.pairwise_cons.mpr ⟨?_, ih tail⟩
        intro bucket member
        rcases mem_joinOnto member with ⟨other, held, same⟩
        rw [same]
        rcases List.mem_cons.mp held with rfl | held
        · exact beyond
        · exact trans beyond (second other held)

theorem bounds_raise (reached : V) (buckets : List (Bucket V)) :
    (raise reached buckets).map (·.bound) = buckets.map (·.bound) := by
  induction buckets generalizing reached with
  | nil => rfl
  | cons bucket rest ih =>
      rw [raise, List.map_cons, List.map_cons, ih]

theorem mem_raise {reached : V} {buckets : List (Bucket V)} {bucket : Bucket V}
    (member : bucket ∈ raise reached buckets) : ∃ other ∈ buckets, other.bound = bucket.bound := by
  have held : bucket.bound ∈ (raise reached buckets).map (·.bound) := List.mem_map_of_mem member
  rw [bounds_raise] at held
  exact List.mem_map.mp held

theorem before_append (below above : List (Bucket V)) :
    before (below ++ above) below.length =
      below.getLast?.getD ⟨Scalar.ofNat 0, Scalar.ofNat 0⟩ := by
  rcases List.eq_nil_or_concat' below with rfl | ⟨front, last, rfl⟩
  · rfl
  · simp [before]

theorem countAt?_cons_same {kept : Bucket V} {bound : V} (same : (kept.bound == bound) = true)
    (rest : List (Bucket V)) :
    countAt? (kept :: rest) bound = some
      (((rest.filter fun bucket => bucket.bound == bound).map (·.count)).foldl (· + ·)
        kept.count) := by
  simp only [countAt?, List.filter_cons, same, if_true, List.map_cons]

theorem countAt?_cons_other {kept : Bucket V} {bound : V} (other : ¬ (kept.bound == bound) = true)
    (rest : List (Bucket V)) : countAt? (kept :: rest) bound = countAt? rest bound := by
  simp only [countAt?, List.filter_cons, other, if_false, Bool.false_eq_true]

end Listing

variable {V : Type} [Scalar V] [Scalar.Ranked V]

/-- Whether every bound is a number. -/
def Bounded (buckets : List (Bucket V)) : Prop :=
  ∀ bucket ∈ buckets, Scalar.isNaN bucket.bound = false

/-- Whether bounds do not fall. -/
def Ascending (buckets : List (Bucket V)) : Prop :=
  buckets.Pairwise fun a b => place a.bound ≤ place b.bound

/-- Whether each bound is larger than the one before. -/
def Increasing (buckets : List (Bucket V)) : Prop :=
  buckets.Pairwise fun a b => place a.bound < place b.bound

instance (buckets : List (Bucket V)) : Decidable (Bounded buckets) :=
  inferInstanceAs (Decidable (∀ bucket ∈ buckets, Scalar.isNaN bucket.bound = false))

instance (buckets : List (Bucket V)) : Decidable (Increasing buckets) :=
  inferInstanceAs (Decidable (buckets.Pairwise fun a b => place a.bound < place b.bound))

theorem place_eq_of_beq {a b : V} (same : (a == b) = true) : place a = place b :=
  (beq_iff.mp same).2

section Sorting

variable [Std.TransCmp (Scalar.compareTotal : V → V → Ordering)]

theorem place_le_of_ne_gt {a b : V} (number : Scalar.isNaN a = false)
    (number' : Scalar.isNaN b = false) (ordered : (Scalar.compareTotal a b != .gt) = true) :
    place a ≤ place b := by
  apply le_of_not_gt
  intro more
  have backward : Scalar.compareTotal b a = .lt :=
    compareTotal_of_lt (lt_iff.mpr ⟨⟨number', number⟩, more⟩)
  rw [Std.OrientedCmp.gt_iff_lt.mpr backward] at ordered
  cases ordered

instance : Std.TransCmp fun a b : Bucket V => Scalar.compareTotal a.bound b.bound where
  eq_swap := Std.OrientedCmp.eq_swap
  isLE_trans := Std.TransCmp.isLE_trans

omit [Scalar.Ranked V] [Std.TransCmp (Scalar.compareTotal : V → V → Ordering)] in
theorem mem_sorted {buckets : List (Bucket V)} {bucket : Bucket V} :
    bucket ∈ sorted buckets ↔ bucket ∈ buckets := (List.mergeSort_perm _ _).mem_iff

theorem ascending_sorted {buckets : List (Bucket V)} (bounded : Bounded buckets) :
    Ascending (sorted buckets) := by
  have listed := List.pairwise_mergeSort
    (ne_gt_trans fun a b : Bucket V => Scalar.compareTotal a.bound b.bound)
    (ne_gt_total fun a b : Bucket V => Scalar.compareTotal a.bound b.bound) buckets
  refine listed.imp_of_mem ?_
  intro a b first second ordered
  exact place_le_of_ne_gt (bounded a (mem_sorted.mp first)) (bounded b (mem_sorted.mp second))
    ordered

end Sorting

section Joining

variable {kept : Bucket V} {rest : List (Bucket V)}

theorem place_lt_of_not_beq {a b : V} (number : Scalar.isNaN a = false)
    (number' : Scalar.isNaN b = false) (le : place a ≤ place b) (apart : ¬ (b == a) = true) :
    place a < place b :=
  lt_of_le_of_ne le fun same => apart (beq_iff.mpr ⟨⟨number', number⟩, same.symm⟩)

theorem increasing_joinOnto (bounded : Bounded (kept :: rest))
    (ascending : Ascending (kept :: rest)) : Increasing (joinOnto kept rest) := by
  refine @pairwise_joinOnto V _
    (fun a b => (Scalar.isNaN a = false ∧ Scalar.isNaN b = false) ∧ place a ≤ place b)
    (fun a b => place a < place b) ?_ ?_ kept rest ?_
  · rintro a b ⟨⟨number, number'⟩, le⟩ apart
    exact place_lt_of_not_beq number number' le apart
  · rintro a b c less ⟨-, le⟩
    exact less.trans_le le
  · exact List.Pairwise.imp_of_mem (fun first second le =>
      ⟨⟨bounded _ first, bounded _ second⟩, le⟩) ascending

theorem joinOnto_first (kept : Bucket V) (rest : List (Bucket V)) :
    ∃ joined ∈ joinOnto kept rest, place joined.bound = place kept.bound := by
  induction rest generalizing kept with
  | nil => exact ⟨kept, List.mem_cons_self, rfl⟩
  | cons next rest ih =>
      rw [joinOnto]
      split
      · exact ih ⟨kept.bound, kept.count + next.count⟩
      · exact ⟨kept, List.mem_cons_self, rfl⟩

/-- Every bound that is joined stays, but perhaps for its sign where it is zero. -/
theorem exists_mem_joinOnto {bucket : Bucket V} (member : bucket ∈ kept :: rest) :
    ∃ joined ∈ joinOnto kept rest, place joined.bound = place bucket.bound := by
  induction rest generalizing kept with
  | nil => exact ⟨bucket, member, rfl⟩
  | cons next rest ih =>
      rw [joinOnto]
      split
      · rename_i same
        have first := joinOnto_first ⟨kept.bound, kept.count + next.count⟩ rest
        rcases List.mem_cons.mp member with rfl | member
        · exact first
        · rcases List.mem_cons.mp member with rfl | member
          · rcases first with ⟨joined, held, reached⟩
            exact ⟨joined, held, reached.trans (place_eq_of_beq same).symm⟩
          · exact ih (List.mem_cons_of_mem _ member)
      · rcases List.mem_cons.mp member with rfl | member
        · exact ⟨bucket, List.mem_cons_self, rfl⟩
        · rcases ih member with ⟨joined, held, reached⟩
          exact ⟨joined, List.mem_cons_of_mem _ held, reached⟩

theorem countAt?_of_lt {bound : V} (above : ∀ bucket ∈ rest, place bound < place bucket.bound) :
    rest.filter (fun bucket => bucket.bound == bound) = [] := by
  refine List.filter_eq_nil_iff.mpr fun bucket member same => ?_
  exact (above bucket member).ne' (place_eq_of_beq same)

theorem beq_self {a : V} (number : Scalar.isNaN a = false) : (a == a) = true :=
  beq_iff.mpr ⟨⟨number, number⟩, rfl⟩

/-- Two neighbours with one bound count at every bound what they count joined. -/
theorem countAt?_merge {next : Bucket V} (number : Scalar.isNaN kept.bound = false)
    (number' : Scalar.isNaN next.bound = false) (same : (next.bound == kept.bound) = true)
    (bound : V) :
    countAt? (kept :: next :: rest) bound =
      countAt? (⟨kept.bound, kept.count + next.count⟩ :: rest) bound := by
  by_cases here : (kept.bound == bound) = true
  · have there : (next.bound == bound) = true := beq_iff.mpr ⟨⟨number', (beq_iff.mp here).1.2⟩,
      (place_eq_of_beq same).trans (place_eq_of_beq here)⟩
    rw [countAt?_cons_same here,
      @countAt?_cons_same V _ ⟨kept.bound, kept.count + next.count⟩ bound here]
    simp only [List.filter_cons, there, if_true, List.map_cons, List.foldl_cons]
  · have there : ¬ (next.bound == bound) = true := fun there =>
      here (beq_iff.mpr ⟨⟨number, (beq_iff.mp there).1.2⟩,
        (place_eq_of_beq same).symm.trans (place_eq_of_beq there)⟩)
    rw [countAt?_cons_other here, countAt?_cons_other there,
      @countAt?_cons_other V _ ⟨kept.bound, kept.count + next.count⟩ bound here]

/-- A joined bucket counts what all the buckets with its bound count together. -/
theorem countAt?_joinOnto (bounded : Bounded (kept :: rest)) (ascending : Ascending (kept :: rest))
    {bucket : Bucket V} (member : bucket ∈ joinOnto kept rest) :
    countAt? (kept :: rest) bucket.bound = some bucket.count := by
  induction rest generalizing kept with
  | nil =>
      rw [joinOnto, List.mem_singleton] at member
      rw [member, countAt?_cons_same (beq_self (bounded kept List.mem_cons_self))]
      rfl
  | cons next rest ih =>
      rcases List.forall_mem_cons.mp bounded with ⟨number, later⟩
      rcases List.forall_mem_cons.mp later with ⟨number', others⟩
      rcases List.pairwise_cons.mp ascending with ⟨above, tail⟩
      rcases List.forall_mem_cons.mp above with ⟨le, aboveOthers⟩
      rw [joinOnto] at member
      split at member
      · rename_i same
        rw [countAt?_merge number number' same]
        exact ih (List.forall_mem_cons.mpr ⟨number, others⟩)
          (List.pairwise_cons.mpr ⟨aboveOthers, (List.pairwise_cons.mp tail).2⟩) member
      · rename_i apart
        have less := place_lt_of_not_beq number number' le apart
        have beyond : ∀ other ∈ next :: rest, place kept.bound < place other.bound :=
          List.forall_mem_cons.mpr ⟨less, fun other held =>
            less.trans_le ((List.pairwise_cons.mp tail).1 other held)⟩
        rcases List.mem_cons.mp member with rfl | member
        · rw [countAt?_cons_same (beq_self number), countAt?_of_lt beyond]
          rfl
        · rcases mem_joinOnto member with ⟨other, held, same⟩
          have apart : ¬ (kept.bound == bucket.bound) = true := fun here =>
            (beyond other held).ne ((place_eq_of_beq here).trans (congrArg place same))
          rw [countAt?_cons_other apart]
          exact ih later tail member

theorem joinOnto_of_increasing (increasing : Increasing (kept :: rest)) :
    joinOnto kept rest = kept :: rest := by
  induction rest generalizing kept with
  | nil => rfl
  | cons next rest ih =>
      rcases List.pairwise_cons.mp increasing with ⟨above, tail⟩
      have apart : ¬ (next.bound == kept.bound) = true := fun same =>
        (above next List.mem_cons_self).ne' (place_eq_of_beq same)
      rw [joinOnto, if_neg apart, ih tail]

end Joining

/-- Joining as a whole: one bucket for each bound, with the counts of that bound together. -/
structure Joined (given joined : List (Bucket V)) : Prop where
  increasing : Increasing joined
  bound : ∀ bucket ∈ joined, ∃ other ∈ given, bucket.bound = other.bound
  kept : ∀ bucket ∈ given, ∃ other ∈ joined, place other.bound = place bucket.bound
  count : ∀ bucket ∈ joined, countAt? given bucket.bound = some bucket.count

theorem joined_joinEqual {given : List (Bucket V)} (bounded : Bounded given)
    (ascending : Ascending given) : Joined given (joinEqual given) := by
  cases given with
  | nil => exact ⟨.nil, nofun, nofun, nofun⟩
  | cons kept rest =>
      exact ⟨increasing_joinOnto bounded ascending, fun _ => mem_joinOnto,
        fun _ => exists_mem_joinOnto, fun _ => countAt?_joinOnto bounded ascending⟩

theorem joinEqual_of_increasing {buckets : List (Bucket V)} (increasing : Increasing buckets) :
    joinEqual buckets = buckets := by
  cases buckets with
  | nil => rfl
  | cons kept rest => exact joinOnto_of_increasing increasing

section Raising

/-- Whether every count is a number. -/
def Counted (buckets : List (Bucket V)) : Prop :=
  ∀ bucket ∈ buckets, Scalar.isNaN bucket.count = false

/-- Whether no count is below the given one or one before it. -/
def Steady (reached : V) (buckets : List (Bucket V)) : Prop :=
  (reached :: buckets.map (·.count)).Pairwise fun a b => place a ≤ place b

instance (reached : V) (buckets : List (Bucket V)) : Decidable (Steady reached buckets) :=
  inferInstanceAs (Decidable
    ((reached :: buckets.map (·.count)).Pairwise fun a b => place a ≤ place b))

variable {reached : V} {bucket : Bucket V} {rest : List (Bucket V)}

/-- The greater of the count reached so far and the count of the bucket. -/
def reach (reached : V) (bucket : Bucket V) : V :=
  if bucket.count < reached then reached else bucket.count

omit [Scalar.Ranked V] in
theorem raise_cons : raise reached (bucket :: rest) =
    ⟨bucket.bound, reach reached bucket⟩ :: raise (reach reached bucket) rest := rfl

theorem Increasing.raise {buckets : List (Bucket V)} (increasing : Increasing buckets)
    (reached : V) : Increasing (raise reached buckets) := by
  have along (list : List (Bucket V)) : Increasing list ↔
      (list.map (·.bound)).Pairwise fun a b => place a < place b := by
    rw [List.pairwise_map, Increasing]
  rw [along, bounds_raise, ← along]
  exact increasing

theorem reach_of_le (le : place reached ≤ place bucket.count) :
    reach reached bucket = bucket.count :=
  if_neg fun less => le.not_gt (lt_iff.mp less).2

theorem reach_spec (number : Scalar.isNaN reached = false)
    (number' : Scalar.isNaN bucket.count = false) :
    Scalar.isNaN (reach reached bucket) = false ∧ place reached ≤ place (reach reached bucket) ∧
      place bucket.count ≤ place (reach reached bucket) := by
  rw [reach]
  split
  · rename_i less
    exact ⟨number, le_refl _, (lt_iff.mp less).2.le⟩
  · rename_i more
    exact ⟨number', le_of_not_gt fun less => more (lt_iff.mpr ⟨⟨number', number⟩, less⟩), le_refl _⟩

/-- Raised counts do not fall, from the count reached before on. -/
theorem steady_raise {buckets : List (Bucket V)} (number : Scalar.isNaN reached = false)
    (counted : Counted buckets) : Steady reached (raise reached buckets) := by
  induction buckets generalizing reached with
  | nil => exact List.pairwise_singleton _ _
  | cons bucket rest ih =>
      have step := reach_spec number (counted bucket List.mem_cons_self)
      have tail := ih step.1 fun other held => counted other (List.mem_cons_of_mem _ held)
      rw [Steady, raise_cons, List.map_cons]
      refine List.pairwise_cons.mpr ⟨?_, tail⟩
      intro count member
      rcases List.mem_cons.mp member with rfl | member
      · exact step.2.1
      · exact step.2.1.trans ((List.pairwise_cons.mp tail).1 count member)

theorem raise_of_steady {buckets : List (Bucket V)} (steady : Steady reached buckets) :
    raise reached buckets = buckets := by
  induction buckets generalizing reached with
  | nil => rfl
  | cons bucket rest ih =>
      rcases List.pairwise_cons.mp steady with ⟨above, tail⟩
      rw [raise_cons, reach_of_le (above bucket.count List.mem_cons_self), ih tail]

/-- Raising does not hide a count that is no number. -/
theorem counted_of_raise {buckets : List (Bucket V)}
    (counted : Counted (raise reached buckets)) : Counted buckets := by
  induction buckets generalizing reached with
  | nil => exact nofun
  | cons first rest ih =>
      rw [raise_cons] at counted
      have here : Scalar.isNaN (reach reached first) = false := counted _ List.mem_cons_self
      intro bucket member
      rcases List.mem_cons.mp member with rfl | member
      · rw [reach] at here
        split at here
        · rename_i less
          exact (lt_iff.mp less).1.1
        · exact here
      · exact ih (fun other held => counted other (List.mem_cons_of_mem _ held)) bucket member

theorem falls_eq_false_iff {buckets : List (Bucket V)} (number : Scalar.isNaN reached = false)
    (counted : Counted buckets) : falls reached buckets = false ↔ Steady reached buckets := by
  induction buckets generalizing reached with
  | nil => exact ⟨fun _ => List.pairwise_singleton _ _, fun _ => rfl⟩
  | cons bucket rest ih =>
      have number' := counted bucket List.mem_cons_self
      have later : Counted rest := fun other held => counted other (List.mem_cons_of_mem _ held)
      rw [falls, Bool.or_eq_false_iff, decide_eq_false_iff_not]
      constructor
      · rintro ⟨more, still⟩
        have le : place reached ≤ place bucket.count :=
          le_of_not_gt fun less => more (lt_iff.mpr ⟨⟨number', number⟩, less⟩)
        rw [if_neg more, ih number' later] at still
        refine List.pairwise_cons.mpr ⟨?_, still⟩
        intro count member
        rcases List.mem_cons.mp member with rfl | member
        · exact le
        · exact le.trans ((List.pairwise_cons.mp still).1 count member)
      · intro steady
        rcases List.pairwise_cons.mp steady with ⟨above, tail⟩
        have more : ¬ bucket.count < reached := fun less =>
          (above bucket.count List.mem_cons_self).not_gt (lt_iff.mp less).2
        rw [if_neg more, ih number' later]
        exact ⟨more, tail⟩

/-- What a raised bucket counts: the most that is counted up to its bound, and no less than what was
reached before. -/
structure Raised (reached : V) (buckets : List (Bucket V)) (bucket : Bucket V) : Prop where
  number : Scalar.isNaN bucket.count = false
  above : ∀ other ∈ buckets, place other.bound ≤ place bucket.bound →
    place other.count ≤ place bucket.count
  attained : (bucket.count = reached ∧ ∃ other ∈ buckets, place other.count < place reached) ∨
    ∃ other ∈ buckets, place other.bound ≤ place bucket.bound ∧ other.count = bucket.count

theorem raised_raise {buckets : List (Bucket V)} (number : Scalar.isNaN reached = false)
    (counted : Counted buckets) (increasing : Increasing buckets)
    (member : bucket ∈ raise reached buckets) : Raised reached buckets bucket := by
  induction buckets generalizing reached with
  | nil => cases member
  | cons first rest ih =>
      rcases List.pairwise_cons.mp increasing with ⟨beyond, tail⟩
      have later : Counted rest := fun other held => counted other (List.mem_cons_of_mem _ held)
      have step := reach_spec number (counted first List.mem_cons_self)
      have chosen : reach reached first = reached ∧ place first.count < place reached ∨
          reach reached first = first.count := by
        rw [reach]
        split
        · rename_i less
          exact .inl ⟨rfl, (lt_iff.mp less).2⟩
        · exact .inr rfl
      rw [raise_cons] at member
      rcases List.mem_cons.mp member with rfl | member
      · refine ⟨step.1, ?_, ?_⟩
        · intro other held le
          rcases List.mem_cons.mp held with rfl | held
          · exact step.2.2
          · exact absurd (beyond other held) le.not_gt
        · rcases chosen with ⟨same, less⟩ | same
          · exact .inl ⟨same, first, List.mem_cons_self, less⟩
          · exact .inr ⟨first, List.mem_cons_self, le_refl _, same.symm⟩
      · have raised := ih step.1 later tail member
        have least : place (reach reached first) ≤ place bucket.count :=
          (List.pairwise_cons.mp (steady_raise step.1 later)).1 _ (List.mem_map_of_mem member)
        have below : place first.bound ≤ place bucket.bound := by
          rcases mem_raise member with ⟨other, held, same⟩
          exact (same ▸ beyond other held).le
        refine ⟨raised.number, ?_, ?_⟩
        · intro other held le
          rcases List.mem_cons.mp held with rfl | held
          · exact step.2.2.trans least
          · exact raised.above other held le
        · rcases raised.attained with ⟨same, -⟩ | ⟨other, held, le, same⟩
          · rcases chosen with ⟨old, less⟩ | new
            · exact .inl ⟨same.trans old, first, List.mem_cons_self, less⟩
            · exact .inr ⟨first, List.mem_cons_self, below, (same.trans new).symm⟩
          · exact .inr ⟨other, List.mem_cons_of_mem _ held, le, same⟩

end Raising

end SeriesQuery.Bucket
