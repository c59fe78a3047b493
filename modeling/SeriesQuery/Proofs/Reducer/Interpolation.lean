import SeriesQuery.Proofs.Bucket.Prepared
import SeriesQuery.Proofs.Regrouping
/-!
Reading percentiles off ordered values. Laws of ranks and lines, which each arithmetic satisfies in
its own way, are all it takes: a percentile is then inside the list, between its neighbours and in
the order of the percentages.
-/
namespace SeriesQuery

open Scalar.Ranked

section Reading

variable {V : Type} [Scalar V]

namespace SpaceReducer

/-- The rank of a percentile among values of which the last stands at the given position. -/
def rank (V : Type) [Scalar V] (last percent : Nat) : V := percentOf percent * Scalar.ofNat last

abbrev rankIn (values : List V) (percent : Nat) : V := rank V (values.length - 1) percent

def lower (rank : V) : Nat := Scalar.floor rank

def upper (rank : V) : Nat :=
  if (Scalar.ofNat (lower rank) : V) < rank then lower rank + 1 else lower rank

/-- What stands at a rank on the line between the two values next to it. -/
def onLine (low high rank : V) : V := low + (high - low) * (rank - Scalar.ofNat (lower rank))

def ordered (values : List V) : List V :=
  values.mergeSort fun a b => Scalar.compareTotal a b != .gt

theorem reduce_percentile {values : List V} (filled : values ≠ []) (percent : Nat) :
    (percentile percent).reduce values = do
      let low ← (ordered values)[lower (rankIn values percent)]?
      let high ← (ordered values)[upper (rankIn values percent)]?
      return onLine low high (rankIn values percent) := by
  rw [reduce, if_neg (by simpa using filled)]
  rfl

variable {values : List V}

theorem length_ordered (values : List V) : (ordered values).length = values.length :=
  List.length_mergeSort _

theorem mem_of_ordered {position : Nat} {value : V}
    (stands : (ordered values)[position]? = some value) : value ∈ values :=
  List.mem_mergeSort.mp (List.mem_of_getElem? stands)

theorem exists_ordered {position : Nat} (inside : position < values.length) :
    ∃ value, (ordered values)[position]? = some value :=
  ⟨_, List.getElem?_eq_getElem (length_ordered values ▸ inside)⟩

theorem exists_position {value : V} (member : value ∈ values) :
    ∃ position, position < values.length ∧ (ordered values)[position]? = some value := by
  rcases List.mem_iff_getElem?.mp (List.mem_mergeSort.mpr member) with ⟨position, stands⟩
  exact ⟨position, length_ordered values ▸ (List.getElem?_eq_some_iff.mp stands).1, stands⟩

theorem lower_le_upper (rank : V) : lower rank ≤ upper rank ∧ upper rank ≤ lower rank + 1 := by
  rw [upper]
  split <;> omega

/-- A percentile with the two values that it is read off between. -/
structure ReadBetween (values : List V) (percent : Nat) (low high value : V) : Prop where
  low : (ordered values)[lower (rankIn values percent)]? = some low
  high : (ordered values)[upper (rankIn values percent)]? = some high
  value : (percentile percent).reduce values = some value

theorem ReadBetween.value_eq {percent : Nat} {low high value : V} (filled : values ≠ [])
    (read : ReadBetween values percent low high value) :
    value = onLine low high (rankIn values percent) := by
  have found := read.value
  rw [reduce_percentile filled, read.low, read.high] at found
  exact (Option.some.inj found).symm

/-- What percentiles of finite values keep to, where two values have a finite difference. -/
structure Percentiles (values : List V) : Prop where
  inside {percent : Nat} : percent ≤ 100 →
    lower (rankIn values percent) ≤ upper (rankIn values percent) ∧
      upper (rankIn values percent) ≤ lower (rankIn values percent) + 1 ∧
      upper (rankIn values percent) < values.length
  between {percent : Nat} : percent ≤ 100 → ∃ low high value,
    ReadBetween values percent low high value ∧
      (low ≤ value ∧ value ≤ high ↔ Scalar.isFinite (high - low) = true)
  within {percent : Nat} {low high value least greatest : V} : percent ≤ 100 →
    ReadBetween values percent low high value → Scalar.isFinite (high - low) = true →
      Leads (· ≤ ·) least values → Leads (· ≥ ·) greatest values →
        least ≤ value ∧ value ≤ greatest
  mono {percent other : Nat} {low high value low' high' value' : V} : percent ≤ other →
    other ≤ 100 → ReadBetween values percent low high value →
      ReadBetween values other low' high' value' → Scalar.isFinite (high - low) = true →
        Scalar.isFinite (high' - low') = true → value ≤ value'
  least : ∃ least value, Leads (· ≤ ·) least values ∧
    (percentile 0).reduce values = some value ∧ (value == least) = true
  greatest : ∃ greatest value, Leads (· ≥ ·) greatest values ∧
    (percentile 100).reduce values = some value ∧ (value == greatest) = true
  perm {others : List V} (percent : Nat) : others.Perm values →
    (percentile percent).reduce others = (percentile percent).reduce values

end SpaceReducer

end Reading

open SpaceReducer

section Ordered

variable {V : Type} [Scalar V] [Scalar.Ranked V]
  [Std.TransCmp (Scalar.compareTotal : V → V → Ordering)] {values : List V}

/-- Values of the ordered list ascend with their positions. -/
theorem SpaceReducer.ordered_le (finite : ∀ value ∈ values, Scalar.isFinite value = true)
    {first second : Nat} {a b : V} (le : first ≤ second)
    (stands : (ordered values)[first]? = some a) (stands' : (ordered values)[second]? = some b) :
    a ≤ b := by
  have number := number_of_isFinite (finite a (mem_of_ordered stands))
  have number' := number_of_isFinite (finite b (mem_of_ordered stands'))
  rcases le.eq_or_lt with rfl | less
  · obtain rfl := Option.some.inj (stands.symm.trans stands')
    exact refl number
  · rcases List.getElem?_eq_some_iff.mp stands with ⟨inside, rfl⟩
    rcases List.getElem?_eq_some_iff.mp stands' with ⟨inside', rfl⟩
    have ascending := List.pairwise_iff_getElem.mp (List.pairwise_mergeSort
      (ne_gt_trans Scalar.compareTotal) (ne_gt_total Scalar.compareTotal) values) first second
      inside inside' less
    exact le_iff.mpr ⟨⟨number, number'⟩, Bucket.place_le_of_ne_gt number number' ascending⟩

end Ordered

section Laws

variable {V : Type} [Scalar V] [Scalar.Ranked V]

/-- A rank among values of which the last stands at the given position. -/
def Scalar.Within (last : Nat) (rank : V) : Prop := ofNat 0 ≤ rank ∧ rank ≤ ofNat last

/-- Arithmetic in which ranks among so many values, and lines between two values, are in order. -/
structure Scalar.Interpolates (V : Type) [Scalar V] [Ranked V] (last : Nat) : Prop where
  within_ofNat {number : Nat} : number ≤ last → Within last (ofNat number : V)
  floor_ofNat {number : Nat} : number ≤ last → floor (ofNat number : V) = number
  floor_mono {rank other : V} : Within last rank → Within last other → rank ≤ other →
    floor rank ≤ floor other
  within_rank {percent : Nat} : percent ≤ 100 → Within last (rank V last percent)
  rank_mono {percent other : Nat} : percent ≤ other → other ≤ 100 →
    rank V last percent ≤ rank V last other
  rank_least : rank V last 0 ≤ ofNat 0
  rank_greatest : ofNat last ≤ rank V last 100
  isFinite_sub_self {a : V} : isFinite a = true → isFinite (a - a) = true
  onLine_iff {low high rank : V} : isFinite low = true → isFinite high = true → low ≤ high →
    Within last rank →
      (low ≤ onLine low high rank ∧ onLine low high rank ≤ high ↔ isFinite (high - low) = true)
  onLine_mono {low high rank other : V} : isFinite low = true → isFinite high = true →
    low ≤ high → isFinite (high - low) = true → Within last rank → Within last other →
      floor rank = floor other → rank ≤ other → onLine low high rank ≤ onLine low high other

namespace Scalar.Interpolates

variable {last : Nat} (laws : Interpolates V last) {reached : V}
include laws

theorem lower_le (within : Within last reached) : lower reached ≤ last := by
  have most := laws.floor_mono within (laws.within_ofNat le_rfl) within.2
  rwa [laws.floor_ofNat le_rfl] at most

theorem upper_le (within : Within last reached) : upper reached ≤ last := by
  have least := laws.lower_le within
  rw [upper]
  split
  · rename_i beyond
    rcases least.eq_or_lt with same | less
    · rw [same] at beyond
      exact absurd (le_iff.mp within.2).2 (lt_iff.mp beyond).2.not_ge
    · exact less
  · exact least

theorem lower_least : lower (rank V last 0) = 0 ∧ upper (rank V last 0) = 0 := by
  have within := laws.within_rank (Nat.zero_le 100)
  have most := laws.floor_mono within (laws.within_ofNat (Nat.zero_le last)) laws.rank_least
  rw [laws.floor_ofNat (Nat.zero_le last)] at most
  have none : lower (rank V last 0) = 0 := Nat.le_zero.mp most
  refine ⟨none, ?_⟩
  rw [upper, none, if_neg]
  exact fun beyond => (lt_iff.mp beyond).2.not_ge (le_iff.mp laws.rank_least).2

theorem lower_greatest : lower (rank V last 100) = last ∧ upper (rank V last 100) = last := by
  have within := laws.within_rank (le_refl 100)
  have least := laws.floor_mono (laws.within_ofNat le_rfl) within laws.rank_greatest
  rw [laws.floor_ofNat le_rfl] at least
  change last ≤ lower _ at least
  have most := laws.upper_le within
  have next := (lower_le_upper (rank V last 100)).1
  omega

end Scalar.Interpolates

theorem SpaceReducer.upper_lt {values : List V} {percent : Nat}
    (laws : Scalar.Interpolates V (values.length - 1)) (filled : values ≠ [])
    (whole : percent ≤ 100) : upper (rankIn values percent) < values.length := by
  have most : upper (rankIn values percent) ≤ values.length - 1 :=
    laws.upper_le (laws.within_rank whole)
  have some := List.length_pos_of_ne_nil filled
  omega

theorem SpaceReducer.exists_readBetween {values : List V} {percent : Nat}
    (laws : Scalar.Interpolates V (values.length - 1)) (filled : values ≠ [])
    (whole : percent ≤ 100) : ∃ low high value, ReadBetween values percent low high value := by
  have inside := upper_lt laws filled whole
  rcases exists_ordered ((lower_le_upper _).1.trans_lt inside) with ⟨low, stands⟩
  rcases exists_ordered inside with ⟨high, stands'⟩
  have value : (percentile percent).reduce values =
      some (onLine low high (rankIn values percent)) := by
    rw [reduce_percentile filled, stands, stands']
    rfl
  exact ⟨low, high, _, stands, stands', value⟩

end Laws

namespace SpaceReducer

variable {V : Type} [Scalar V] [Scalar.Ranked V]
  [Std.TransCmp (Scalar.compareTotal : V → V → Ordering)] {values : List V}
  {percent other : Nat} {low high value low' high' value' : V}

theorem ReadBetween.le (finite : ∀ value ∈ values, Scalar.isFinite value = true)
    (read : ReadBetween values percent low high value) : low ≤ high :=
  ordered_le finite (lower_le_upper _).1 read.low read.high

variable (laws : Scalar.Interpolates V (values.length - 1)) (filled : values ≠ [])
  (finite : ∀ value ∈ values, Scalar.isFinite value = true)
include laws filled finite

theorem between_iff (whole : percent ≤ 100) (read : ReadBetween values percent low high value) :
    low ≤ value ∧ value ≤ high ↔ Scalar.isFinite (high - low) = true := by
  rw [read.value_eq filled]
  exact laws.onLine_iff (finite low (mem_of_ordered read.low))
    (finite high (mem_of_ordered read.high)) (read.le finite) (laws.within_rank whole)

/-- Greater percentiles are read off further on: between the same values or between later ones. -/
theorem percentile_mono (le : percent ≤ other) (whole : other ≤ 100)
    (read : ReadBetween values percent low high value)
    (read' : ReadBetween values other low' high' value')
    (wide : Scalar.isFinite (high - low) = true) (wide' : Scalar.isFinite (high' - low') = true) :
    value ≤ value' := by
  have within := laws.within_rank (le.trans whole)
  have within' := laws.within_rank whole
  have further := laws.rank_mono le whole
  have onward : lower (rankIn values percent) ≤ lower (rankIn values other) :=
    laws.floor_mono within within' further
  have below := ((between_iff laws filled finite (le.trans whole) read).mpr wide).2
  have above := ((between_iff laws filled finite whole read').mpr wide').1
  have next := lower_le_upper (rankIn values percent)
  by_cases passed : upper (rankIn values percent) ≤ lower (rankIn values other)
  · exact trans below (trans (ordered_le finite passed read.high read'.low) above)
  · -- Between the same two values both are on one line.
    have same : lower (rankIn values percent) = lower (rankIn values other) := by omega
    have beyond : upper (rankIn values percent) = upper (rankIn values other) := by
      have ahead : (Scalar.ofNat (lower (rankIn values percent)) : V) < rankIn values percent := by
        by_contra reached
        rw [upper, if_neg reached] at passed
        exact passed same.le
      rw [upper, upper, if_pos ahead, if_pos (same ▸ lt_trans_le ahead further), same]
    obtain rfl : low = low' := Option.some.inj (read.low.symm.trans (same ▸ read'.low))
    obtain rfl : high = high' := Option.some.inj (read.high.symm.trans (beyond ▸ read'.high))
    rw [read.value_eq filled, read'.value_eq filled]
    exact laws.onLine_mono (finite low (mem_of_ordered read.low))
      (finite high (mem_of_ordered read.high)) (read.le finite) wide within within' same further

/-- Where a rank falls on a value, that is what is read off. -/
theorem beq_of_same (whole : percent ≤ 100) (read : ReadBetween values percent low high value)
    (same : lower (rankIn values percent) = upper (rankIn values percent)) :
    (value == low) = true := by
  obtain rfl : low = high := Option.some.inj (read.low.symm.trans (same ▸ read.high))
  have narrow := laws.isFinite_sub_self (finite low (mem_of_ordered read.low))
  rcases (between_iff laws filled finite whole read).mpr narrow with ⟨above, below⟩
  exact beq_of_le below above

/-- A percentile whose rank is at an end of the ordered list is the extreme value there. -/
theorem percentile_leads {relation : V → V → Prop} {position : Nat} (whole : percent ≤ 100)
    (stands : lower (rankIn values percent) = position ∧ upper (rankIn values percent) = position)
    (related : ∀ {other : Nat} {low value : V}, other < values.length →
      (ordered values)[position]? = some low → (ordered values)[other]? = some value →
        relation low value) :
    ∃ extreme value, Leads relation extreme values ∧
      (percentile percent).reduce values = some value ∧ (value == extreme) = true := by
  rcases exists_readBetween laws filled whole with ⟨low, high, value, read⟩
  refine ⟨low, value, ⟨mem_of_ordered read.low, fun other member => ?_⟩, read.value,
    beq_of_same laws filled finite whole read (stands.1.trans stands.2.symm)⟩
  rcases exists_position member with ⟨position', inside, found⟩
  exact related inside (stands.1 ▸ read.low) found

/-- Percentiles keep to their values wherever ranks and lines are in order. -/
theorem percentiles [Std.LawfulEqCmp (Scalar.compareTotal : V → V → Ordering)] :
    Percentiles values where
  inside {percent} whole :=
    ⟨(lower_le_upper _).1, (lower_le_upper _).2, upper_lt laws filled whole⟩
  between {percent} whole := by
    rcases exists_readBetween laws filled whole with ⟨low, high, value, read⟩
    exact ⟨low, high, value, read, between_iff laws filled finite whole read⟩
  within {percent low high value least greatest} whole read wide least greatest := by
    rcases (between_iff laws filled finite whole read).mpr wide with ⟨above, below⟩
    exact ⟨trans (least.related low (mem_of_ordered read.low)) above,
      trans below (greatest.related high (mem_of_ordered read.high))⟩
  mono := percentile_mono laws filled finite
  least := percentile_leads laws filled finite (Nat.zero_le 100) laws.lower_least
    fun _ first other => ordered_le finite (Nat.zero_le _) first other
  greatest := percentile_leads laws filled finite le_rfl laws.lower_greatest
    fun inside last other => ordered_le finite (Nat.le_sub_one_of_lt inside) other last
  perm {others} percent perm := reduce_percentile_perm percent perm

end SpaceReducer

end SeriesQuery
