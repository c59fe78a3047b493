import Mathlib.Data.List.Nodup
import SeriesQuery.Proofs.Double.Words
import SeriesQuery.Proofs.Mean
import SeriesQuery.Summary
/-!
Summaries of points, pushed one by one or merged out of parts. Main statement: a summary counts its
points, knows the least and the greatest of their values and the latest one, and without rounding
their total and a mean between the two; so it does not depend on how it was put together.
-/
namespace SeriesQuery

/-! The latest value -/

/-- The last of the points that none of the others is later than. -/
def Latest {V : Type} (points : List (Int × V)) (instant : Int) (value : V) : Prop :=
  ∃ before after, points = before ++ (instant, value) :: after ∧
    (∀ point ∈ before, point.1 ≤ instant) ∧ ∀ point ∈ after, point.1 < instant

namespace Latest

variable {V : Type} {points others : List (Int × V)} {instant other : Int} {value another : V}

theorem mem (latest : Latest points instant value) : (instant, value) ∈ points := by
  rcases latest with ⟨before, after, rfl, -⟩
  simp

theorem le (latest : Latest points instant value) {point : Int × V} (member : point ∈ points) :
    point.1 ≤ instant := by
  rcases latest with ⟨before, after, rfl, early, late⟩
  rcases List.mem_append.mp member with member | member
  · exact early point member
  · rcases List.mem_cons.mp member with rfl | member
    · exact le_rfl
    · exact (late point member).le

theorem single (instant : Int) (value : V) : Latest [(instant, value)] instant value :=
  ⟨[], [], rfl, by simp, by simp⟩

/-- A point of the second part is the latest unless it is earlier than the latest of the first. -/
theorem append (first : Latest points instant value) (second : Latest others other another) :
    Latest (points ++ others) (if instant ≤ other then other else instant)
      (if instant ≤ other then another else value) := by
  by_cases later : instant ≤ other
  · rw [if_pos later, if_pos later]
    rcases second with ⟨before, after, rfl, early, late⟩
    refine ⟨points ++ before, after, by simp, ?_, late⟩
    intro point member
    rcases List.mem_append.mp member with member | member
    · exact (first.le member).trans later
    · exact early point member
  · rw [if_neg later, if_neg later]
    rcases first with ⟨before, after, rfl, early, late⟩
    refine ⟨before, after ++ others, by simp, early, ?_⟩
    intro point member
    rcases List.mem_append.mp member with member | member
    · exact late point member
    · exact (second.le member).trans_lt (not_le.mp later)

theorem instant_eq (same : ∀ point, point ∈ points ↔ point ∈ others)
    (first : Latest points instant value) (second : Latest others other another) :
    instant = other :=
  (second.le ((same _).mp first.mem)).antisymm (first.le ((same _).mpr second.mem))

theorem value_eq (first : Latest points instant value) (second : Latest points instant another) :
    value = another := by
  rcases first with ⟨before, after, rfl, early, late⟩
  rcases second with ⟨before', after', same, early', late'⟩
  rcases List.append_eq_append_iff.mp same with ⟨more, rfl, rest⟩ | ⟨more, rfl, rest⟩
  · cases more with
    | nil => exact congrArg Prod.snd (List.cons.inj rest).1
    | cons point more =>
        obtain ⟨rfl, rfl⟩ := List.cons.inj rest
        exact absurd (late (instant, another) (by simp)) (lt_irrefl _)
  · cases more with
    | nil => exact congrArg Prod.snd (List.cons.inj rest).1.symm
    | cons point more =>
        obtain ⟨rfl, rfl⟩ := List.cons.inj rest
        exact absurd (late' (instant, value) (by simp)) (lt_irrefl _)

end Latest

/-! Summaries -/

/-- How a summary came about: from a first point, by one more point, or out of two others. -/
inductive Assembly (V : Type) where
  | single (instant : Int) (value : V)
  | push (earlier : Assembly V) (instant : Int) (value : V)
  | merge (first second : Assembly V)

namespace Assembly

variable {V : Type}

/-- The points that went into a summary, in the order they came. -/
def points : Assembly V → List (Int × V)
  | single instant value => [(instant, value)]
  | push earlier instant value => earlier.points ++ [(instant, value)]
  | merge first second => first.points ++ second.points

def summary [Scalar V] : Assembly V → Summary V
  | single instant value => .single instant value
  | push earlier instant value => earlier.summary.push instant value
  | merge first second => first.summary.merge second.summary

/-- Points put together one by one after those of an assembly. -/
def pushAll (assembly : Assembly V) (points : List (Int × V)) : Assembly V :=
  points.foldl (fun earlier point => earlier.push point.1 point.2) assembly

theorem points_pushAll (assembly : Assembly V) (points : List (Int × V)) :
    (assembly.pushAll points).points = assembly.points ++ points := by
  induction points generalizing assembly with
  | nil => simp [pushAll]
  | cons point rest ih =>
      rw [pushAll, List.foldl_cons, ← pushAll, ih]
      simp [Assembly.points]

theorem summary_pushAll [Scalar V] (assembly : Assembly V) (points : List (Int × V)) :
    (assembly.pushAll points).summary =
      points.foldl (fun summary point => summary.push point.1 point.2) assembly.summary := by
  induction points generalizing assembly with
  | nil => rfl
  | cons point rest ih => exact ih _

/-- The same points in the same order, or in any order if no two are at one instant. -/
def Alike (one other : Assembly V) : Prop :=
  one.points = other.points ∨
    one.points.Perm other.points ∧ (one.points.map (·.1)).Nodup

theorem Alike.perm {one other : Assembly V} (alike : one.Alike other) :
    one.points.Perm other.points := by
  rcases alike with same | ⟨perm, -⟩
  · rw [same]
  · exact perm

end Assembly

namespace Summary

variable {V : Type} [Scalar V]

/-- Points whose values are numbers. -/
def Numbers (points : List (Int × V)) : Prop := ∀ point ∈ points, Scalar.isNaN point.2 = false

instance (points : List (Int × V)) : Decidable (Numbers points) := List.decidableBAll _ points

/-- What a summary tells of its points as to number, size and time. -/
structure Describes (summary : Summary V) (points : List (Int × V)) : Prop where
  count : summary.count = points.length
  filled : 1 ≤ summary.count
  least : Leads (· ≤ ·) summary.least (points.map (·.2))
  greatest : Leads (· ≥ ·) summary.greatest (points.map (·.2))
  latest : Latest points summary.latestAt summary.latest
  least_le_latest : summary.least ≤ summary.latest
  latest_le_greatest : summary.latest ≤ summary.greatest

/-- Two summaries that tell the same, with values compared as numbers. -/
structure Agrees (a b : Summary V) : Prop where
  count : a.count = b.count
  least : (a.least == b.least) = true
  greatest : (a.greatest == b.greatest) = true
  latest : a.latest = b.latest
  latestAt : a.latestAt = b.latestAt

section Described

variable [Scalar.Ranked V] {a b : Summary V} {points others : List (Int × V)}

open Scalar.Ranked

theorem describes_single {instant : Int} {value : V} (number : Scalar.isNaN value = false) :
    (single instant value).Describes [(instant, value)] where
  count := rfl
  filled := le_rfl
  least := ⟨by simp [single], by simpa [single] using refl number⟩
  greatest := ⟨by simp [single], by simpa [single] using refl number⟩
  latest := .single instant value
  least_le_latest := refl number
  latest_le_greatest := refl number

theorem Describes.merge (first : a.Describes points) (second : b.Describes others) :
    (a.merge b).Describes (points ++ others) := by
  have low := (le_iff.mp first.least_le_latest).1
  have high := (le_iff.mp first.latest_le_greatest).1
  have low' := (le_iff.mp second.least_le_latest).1
  have high' := (le_iff.mp second.latest_le_greatest).1
  have least : Leads (· ≤ ·) (a.merge b).least ((points ++ others).map (·.2)) := by
    rw [List.map_append]
    exact least_append low.1 low'.1 first.least second.least
  have greatest : Leads (· ≥ ·) (a.merge b).greatest ((points ++ others).map (·.2)) := by
    rw [List.map_append]
    exact greatest_append high.2 high'.2 first.greatest second.greatest
  have latest : Latest (points ++ others) (a.merge b).latestAt (a.merge b).latest :=
    first.latest.append second.latest
  have among : (a.merge b).latest ∈ (points ++ others).map (·.2) :=
    List.mem_map_of_mem latest.mem
  exact {
    count := by simp [Summary.merge, first.count, second.count]
    filled := by simpa [Summary.merge] using Nat.le_add_right_of_le first.filled
    least, greatest, latest
    least_le_latest := least.related _ among
    latest_le_greatest := greatest.related _ among }

/-- Whatever the shape of the tree, a summary describes the points in it. -/
theorem describes_assembly (assembly : Assembly V) (numbers : Numbers assembly.points) :
    assembly.summary.Describes assembly.points := by
  induction assembly with
  | single instant value => exact describes_single (numbers _ List.mem_cons_self)
  | push earlier instant value ih =>
      have last : Scalar.isNaN value = false :=
        numbers (instant, value) (List.mem_append_right _ (by simp))
      exact (ih fun point member => numbers point (List.mem_append_left _ member)).merge
        (describes_single last)
  | merge first second ihFirst ihSecond =>
      exact (ihFirst fun point member => numbers point (List.mem_append_left _ member)).merge
        (ihSecond fun point member => numbers point (List.mem_append_right _ member))

theorem agrees_of_describes {one other : Assembly V} (alike : one.Alike other)
    (first : a.Describes one.points) (second : b.Describes other.points) : a.Agrees b := by
  have same (point : Int × V) : point ∈ one.points ↔ point ∈ other.points := alike.perm.mem_iff
  have sameValues (value : V) :
      value ∈ one.points.map (·.2) ↔ value ∈ other.points.map (·.2) :=
    (alike.perm.map _).mem_iff
  have low := first.least.both sameValues second.least
  have high := first.greatest.both sameValues second.greatest
  have latestAt := first.latest.instant_eq same second.latest
  refine ⟨?_, beq_of_le low.1 low.2, beq_of_le high.2 high.1, ?_, latestAt⟩
  · rw [first.count, second.count, alike.perm.length_eq]
  · rcases alike with equal | ⟨-, apart⟩
    · have latest := second.latest
      rw [← equal, ← latestAt] at latest
      exact first.latest.value_eq latest
    · have member := (same _).mpr second.latest.mem
      exact congrArg Prod.snd (List.inj_on_of_nodup_map apart first.latest.mem member latestAt)

end Described

section Totalled

open Exact

/-- What a summary tells of its points if addition does not round. -/
structure Totals (summary : Summary Exact) (points : List (Int × Exact)) : Prop where
  sum : summary.sum = Scalar.sum (points.map (·.2))
  rational : ∀ amounts : List Rat, points.map (·.2) = amounts.map .finite →
    summary.sum = .finite amounts.sum ∧ summary.average = .finite (amounts.sum / amounts.length)
  divisor : (Scalar.ofNat summary.count : Exact) ≠ .finite 0
  /-- Opposite infinities have no total, and so no average. -/
  average : summary.least ≤ summary.average ∧ summary.average ≤ summary.greatest ↔
    ¬ (.infinite true ∈ points.map (·.2) ∧ .infinite false ∈ points.map (·.2))

theorem sum_assembly (assembly : Assembly Exact) :
    assembly.summary.sum = Scalar.sum (assembly.points.map (·.2)) := by
  induction assembly with
  | single instant value => exact (sum_single value).symm
  | push earlier instant value ih =>
      rw [Assembly.points, List.map_append, sum_append, ← ih]
      exact congrArg (earlier.summary.sum + ·) (sum_single value).symm
  | merge first second ihFirst ihSecond =>
      rw [Assembly.points, List.map_append, sum_append, ← ihFirst, ← ihSecond]
      rfl

theorem Describes.divisor {summary : Summary Exact} {points : List (Int × Exact)}
    (describes : summary.Describes points) : ((summary.count : Nat) : Rat) ≠ 0 := by
  have := describes.filled
  exact_mod_cast (by omega : summary.count ≠ 0)

section Average

variable {summary : Summary Exact} {points : List (Int × Exact)}
  (describes : summary.Describes points)
  (total : summary.sum = Scalar.sum (points.map (·.2)))

include describes total

theorem average_rational {amounts : List Rat} (same : points.map (·.2) = amounts.map .finite) :
    summary.sum = .finite amounts.sum ∧
      summary.average = .finite (amounts.sum / amounts.length) := by
  have length : points.length = amounts.length := by
    simpa using congrArg List.length same
  have sum : summary.sum = .finite amounts.sum := by
    rw [total, same, ← List.map_id amounts]
    simpa using sum_finite id amounts
  refine ⟨sum, ?_⟩
  rw [average, sum, ← length, ← describes.count]
  exact finite_div describes.divisor

theorem average_finite (finite' : ∀ value ∈ points.map (·.2), Scalar.isFinite value = true) :
    summary.least ≤ summary.average ∧ summary.average ≤ summary.greatest := by
  obtain ⟨amounts, same⟩ := exists_amounts finite'
  have filled : 0 < amounts.length := by
    have length : points.length = amounts.length := by simpa using congrArg List.length same
    have := describes.count
    have := describes.filled
    omega
  have least := describes.least
  have greatest := describes.greatest
  rw [same] at least greatest
  obtain ⟨low, -, isLow⟩ := List.mem_map.mp least.mem
  obtain ⟨high, -, isHigh⟩ := List.mem_map.mp greatest.mem
  have above (amount : Rat) (member : amount ∈ amounts) : low ≤ amount :=
    finite_le_iff.mp (isLow ▸ least.related _ (List.mem_map_of_mem member))
  have below (amount : Rat) (member : amount ∈ amounts) : amount ≤ high :=
    finite_le_iff.mp (isHigh ▸ greatest.related _ (List.mem_map_of_mem member))
  have between := mean_between filled above below
  rw [(average_rational describes total same).2, ← isLow, ← isHigh]
  exact ⟨finite_le_iff.mpr between.1, finite_le_iff.mpr between.2⟩

theorem average_infinite {negative : Bool}
    (leans : ∀ value ∈ points.map (·.2), Leans negative value)
    (member : .infinite negative ∈ points.map (·.2)) :
    summary.least ≤ summary.average ∧ summary.average ≤ summary.greatest := by
  have positive : ¬ ((summary.count : Nat) : Rat) < 0 := not_lt.mpr (Nat.cast_nonneg _)
  have average : summary.average = .infinite negative := by
    rw [Summary.average, total, sum_infinite leans member]
    change Exact.infinite (negative != decide (((summary.count : Nat) : Rat) < 0)) = _
    rw [decide_eq_false positive, Bool.bne_false]
  rw [average]
  exact ⟨describes.least.related _ member, describes.greatest.related _ member⟩

omit describes in
theorem average_opposite (below : .infinite true ∈ points.map (·.2))
    (above : .infinite false ∈ points.map (·.2)) : summary.average = .notANumber := by
  rw [average, total, sum_opposite below above]
  rfl

/-- The average lies between the least and the greatest value just when there is a total. -/
theorem average_between_iff (numbers : Numbers points) :
    summary.least ≤ summary.average ∧ summary.average ≤ summary.greatest ↔
      ¬ (.infinite true ∈ points.map (·.2) ∧ .infinite false ∈ points.map (·.2)) := by
  have number {value : Exact} (member : value ∈ points.map (·.2)) : value.isNaN = false := by
    rcases List.mem_map.mp member with ⟨point, among, rfl⟩
    exact numbers point among
  constructor
  · rintro ⟨low, -⟩ ⟨below, above⟩
    rw [average_opposite total below above] at low
    cases (Scalar.Ranked.le_iff.mp low).1.2
  · intro apart
    by_cases finite' : ∀ value ∈ points.map (·.2), Scalar.isFinite value = true
    · exact average_finite describes total finite'
    push Not at finite'
    obtain ⟨value, member, unbounded⟩ := finite'
    cases value with
    | finite value => exact absurd rfl unbounded
    | notANumber => cases number member
    | infinite negative =>
        have leans (other : Exact) (among : other ∈ points.map (·.2)) : Leans negative other := by
          refine leans_of_ne (number among) ?_
          rintro rfl
          cases negative with
          | false => exact apart ⟨among, member⟩
          | true => exact apart ⟨member, among⟩
        exact average_infinite describes total leans member

theorem totals (numbers : Numbers points) : summary.Totals points where
  sum := total
  rational _ same := average_rational describes total same
  divisor same := describes.divisor (Exact.finite.inj same)
  average := average_between_iff describes total numbers

end Average

/-- Without rounding, agreeing summaries of one total are the same. -/
theorem Agrees.eq {a b : Summary Exact} (agrees : a.Agrees b) (sum : a.sum = b.sum) : a = b := by
  have same {a b : Exact} (equal : (a == b) = true) : a = b := by
    rcases Exact.beq_iff.mp equal with ⟨numbers, place⟩
    exact (place_inj numbers.1 numbers.2).mp place
  rcases a with ⟨sum', count, least, greatest, latest, latestAt⟩
  rcases agrees with ⟨rfl, low, high, rfl, rfl⟩
  cases sum
  cases same low
  cases same high
  rfl

end Totalled

section Assembled

variable {V : Type} [Scalar V] [Scalar.Ranked V] {one other : Assembly V}

theorem agrees_assembly (numbers : Numbers one.points) (alike : one.Alike other) :
    one.summary.Agrees other.summary :=
  agrees_of_describes alike (describes_assembly one numbers) (describes_assembly other
    fun point member => numbers point (alike.perm.mem_iff.mpr member))

end Assembled

theorem summary_eq {one other : Assembly Exact} (numbers : Numbers one.points)
    (alike : one.Alike other) : one.summary = other.summary := by
  refine (agrees_assembly numbers alike).eq ?_
  rw [sum_assembly, sum_assembly]
  exact Exact.folds_add.foldl_perm (alike.perm.map _)

/-- Everything a summary tells holds of it in whatever way it came about. -/
theorem assembled :
    (∀ assembly : Assembly Float, Numbers assembly.points →
      assembly.summary.Describes assembly.points) ∧
    (∀ one other : Assembly Float, Numbers one.points → one.Alike other →
      one.summary.Agrees other.summary) ∧
    (∀ assembly : Assembly Exact, Numbers assembly.points →
      assembly.summary.Describes assembly.points ∧ assembly.summary.Totals assembly.points) ∧
    (∀ one other : Assembly Exact, Numbers one.points → one.Alike other →
      one.summary = other.summary) ∧
    ∀ first second : Assembly Exact, Numbers (first.points ++ second.points) →
      first.summary.merge second.summary =
        second.points.foldl (fun summary point => summary.push point.1 point.2)
          first.summary := by
  refine ⟨fun assembly => describes_assembly assembly, fun _ _ => agrees_assembly, ?_,
    fun _ _ => summary_eq, ?_⟩
  · intro assembly numbers
    have describes := describes_assembly assembly numbers
    exact ⟨describes, totals describes (sum_assembly assembly) numbers⟩
  · intro first second numbers
    have alike : (first.merge second).Alike (first.pushAll second.points) :=
      .inl (Assembly.points_pushAll first second.points).symm
    have numbers : Numbers (first.merge second).points := numbers
    calc first.summary.merge second.summary
      _ = (first.pushAll second.points).summary := summary_eq numbers alike
      _ = _ := Assembly.summary_pushAll first second.points

/-- Two parts that both have a point at the latest instant. -/
def tied (V : Type) [Scalar V] : Assembly V :=
  .merge (.push (.single 5 (Scalar.ofNat 2)) 9 (Scalar.ofNat 7))
    (.push (.single 9 (Scalar.ofNat 3)) 1 (Scalar.ofNat 4))

/-- Two parts with points at different instants. -/
def spread : Assembly Exact :=
  .merge (.push (.single 5 (.finite 2)) 9 (.finite 7)) (.push (.single 1 (.finite (-4))) 4
    (.finite 6))

/-- The points of the two parts the other way round. -/
def reversed : Assembly Exact :=
  .push (.push (.push (.single 4 (.finite 6)) 1 (.finite (-4))) 9 (.finite 7)) 5 (.finite 2)

theorem assembled_spread :
    Numbers (tied Float).points ∧ (tied Float).summary.Describes (tied Float).points ∧
    Numbers spread.points ∧ spread.summary.Totals spread.points ∧
    spread.Alike reversed ∧ spread.summary = reversed.summary ∧
    (tied Exact).summary.latest = .finite 3 ∧ (tied Exact).summary.latestAt = 9 ∧
    spread.summary.least = .finite (-4) ∧ spread.summary.average = .finite (11 / 4) := by
  have numbers : Numbers (tied Float).points := by decide
  have numbers' : Numbers spread.points := by decide
  have alike : spread.Alike reversed := .inr ⟨by decide, by decide⟩
  exact ⟨numbers, assembled.1 _ numbers, numbers', (assembled.2.2.1 _ numbers').2, alike,
    assembled.2.2.2.1 _ _ numbers' alike, by decide, by decide,
    by decide, by decide +kernel⟩

/-- Opposite infinities have neither a total nor an average. -/
theorem undefined_average :
    ¬ (∀ assembly : Assembly Exact, Numbers assembly.points →
      assembly.summary.least ≤ assembly.summary.average ∧
        assembly.summary.average ≤ assembly.summary.greatest) ∧
    ¬ ∀ assembly : Assembly Float, Numbers assembly.points →
      assembly.summary.least ≤ assembly.summary.average ∧
        assembly.summary.average ≤ assembly.summary.greatest := by
  constructor
  · intro between
    have numbers : Numbers [(0, Exact.infinite false), (1, Exact.infinite true)] := by
      decide
    exact absurd (between (.push (.single 0 (.infinite false)) 1 (.infinite true)) numbers)
      (by decide)
  · intro between
    have numbers : Numbers [(0, (Scalar.infinity : Float)), (1, -Scalar.infinity)] := by
      decide
    exact absurd (between (.push (.single 0 Scalar.infinity) 1 (-Scalar.infinity)) numbers)
      (by decide)

end Summary

end SeriesQuery
