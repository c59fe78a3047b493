import Mathlib.Algebra.Order.Ring.Unbundled.Rat
import Mathlib.Data.Prod.Lex
import SeriesQuery.Proofs.Exact
/-!
Numbers on a line. Every value but the one that is no number has a place on a line, and is compared
by that place alone; the two infinities are at the ends. So lists of numbers have a least and a
greatest value, and these are found part by part.
-/
namespace SeriesQuery

/-- Arithmetic whose numbers are compared by their places on a line. -/
class Scalar.Ranked (V : Type) [Scalar V] where
  Line : Type
  [line : LinearOrder Line]
  place : V → Line
  lt_iff {a b : V} : a < b ↔ (isNaN a = false ∧ isNaN b = false) ∧ place a < place b
  le_iff {a b : V} : a ≤ b ↔ (isNaN a = false ∧ isNaN b = false) ∧ place a ≤ place b
  beq_iff {a b : V} : (a == b) = true ↔ (isNaN a = false ∧ isNaN b = false) ∧ place a = place b
  compareTotal_of_lt {a b : V} : a < b → compareTotal a b = .lt
  number_infinity : isNaN (infinity : V) = false
  number_neg_infinity : isNaN (-infinity : V) = false
  le_infinity {a : V} : isNaN a = false → place a ≤ place infinity
  neg_infinity_le {a : V} : isNaN a = false → place (-infinity) ≤ place a
  isFinite_iff {a : V} : isFinite a = true ↔
    isNaN a = false ∧ place (-infinity) < place a ∧ place a < place infinity

attribute [reducible, instance] Scalar.Ranked.line

namespace Scalar.Ranked

variable {V : Type} [Scalar V] [Ranked V] {a b c : V}

theorem refl (number : isNaN a = false) : a ≤ a := le_iff.mpr ⟨⟨number, number⟩, le_rfl⟩

theorem trans (first : a ≤ b) (second : b ≤ c) : a ≤ c := by
  rcases le_iff.mp first with ⟨⟨number, -⟩, low⟩
  rcases le_iff.mp second with ⟨⟨-, number'⟩, high⟩
  exact le_iff.mpr ⟨⟨number, number'⟩, low.trans high⟩

theorem le_of_not_lt (number : isNaN a = false) (number' : isNaN b = false) (fails : ¬ b < a) :
    a ≤ b :=
  le_iff.mpr ⟨⟨number, number'⟩, not_lt.mp fun less => fails (lt_iff.mpr ⟨⟨number', number⟩, less⟩)⟩

theorem le_of_lt (less : a < b) : a ≤ b :=
  le_iff.mpr ⟨(lt_iff.mp less).1, (lt_iff.mp less).2.le⟩

theorem beq_of_le (low : a ≤ b) (high : b ≤ a) : (a == b) = true :=
  beq_iff.mpr ⟨(le_iff.mp low).1, (le_iff.mp low).2.antisymm (le_iff.mp high).2⟩

theorem lt_of_not_le (number : isNaN a = false) (number' : isNaN b = false) (fails : ¬ b ≤ a) :
    a < b :=
  lt_iff.mpr ⟨⟨number, number'⟩, lt_of_not_ge fun le => fails (le_iff.mpr ⟨⟨number', number⟩, le⟩)⟩

theorem lt_trans_le (first : a < b) (second : b ≤ c) : a < c :=
  lt_iff.mpr ⟨⟨(lt_iff.mp first).1.1, (le_iff.mp second).1.2⟩,
    (lt_iff.mp first).2.trans_le (le_iff.mp second).2⟩

theorem number_of_isFinite (finite : isFinite a = true) : isNaN a = false :=
  (isFinite_iff.mp finite).1

/-- What lies between finite values is finite. -/
theorem isFinite_of_between (finite : isFinite a = true) (finite' : isFinite c = true)
    (low : a ≤ b) (high : b ≤ c) : isFinite b = true :=
  isFinite_iff.mpr ⟨(le_iff.mp low).1.2, (isFinite_iff.mp finite).2.1.trans_le (le_iff.mp low).2,
    (le_iff.mp high).2.trans_lt (isFinite_iff.mp finite').2.2⟩

end Scalar.Ranked

/-! Least and greatest values -/

/-- A value of a list that is in relation to all of them. -/
structure Leads {V : Type} (relation : V → V → Prop) (value : V) (values : List V) : Prop where
  mem : value ∈ values
  related : ∀ other ∈ values, relation value other

theorem Leads.append {V : Type} {relation : V → V → Prop} {a b c : V} {values others : List V}
    (trans : ∀ {x y z}, relation x y → relation y z → relation x z)
    (first : Leads relation a values) (second : Leads relation b others)
    (choice : c = a ∨ c = b) (left : relation c a) (right : relation c b) :
    Leads relation c (values ++ others) where
  mem := by
    rcases choice with rfl | rfl
    · exact List.mem_append_left _ first.mem
    · exact List.mem_append_right _ second.mem
  related other member := by
    rcases List.mem_append.mp member with member | member
    · exact trans left (first.related other member)
    · exact trans right (second.related other member)

/-- Two values that lead the same values are in relation both ways. -/
theorem Leads.both {V : Type} {relation : V → V → Prop} {a b : V} {values others : List V}
    (same : ∀ value, value ∈ values ↔ value ∈ others) (first : Leads relation a values)
    (second : Leads relation b others) : relation a b ∧ relation b a :=
  ⟨first.related b ((same b).mpr second.mem), second.related a ((same a).mp first.mem)⟩

namespace Scalar.Ranked

variable {V : Type} [Scalar V] [Ranked V] {a b : V} {values others : List V}

theorem least_append (number : isNaN a = false)
    (number' : isNaN b = false) (first : Leads (· ≤ ·) a values)
    (second : Leads (· ≤ ·) b others) : Leads (· ≤ ·) (least a b) (values ++ others) := by
  by_cases less : b < a
  · have picked : least a b = b := by simp [least, number, less]
    rw [picked]
    exact first.append trans second (.inr rfl) (le_of_lt less) (refl number')
  · have picked : least a b = a := by simp [least, number, less]
    rw [picked]
    exact first.append trans second (.inl rfl) (refl number) (le_of_not_lt number number' less)

theorem greatest_append (number : isNaN a = false)
    (number' : isNaN b = false) (first : Leads (· ≥ ·) a values)
    (second : Leads (· ≥ ·) b others) : Leads (· ≥ ·) (greatest a b) (values ++ others) := by
  by_cases less : a < b
  · have picked : greatest a b = b := by simp [greatest, number, less]
    rw [picked]
    exact first.append (fun high low => trans low high) second (.inr rfl) (le_of_lt less)
      (refl number')
  · have picked : greatest a b = a := by simp [greatest, number, less]
    rw [picked]
    exact first.append (fun high low => trans low high) second (.inl rfl) (refl number)
      (le_of_not_lt number' number less)

end Scalar.Ranked

namespace Exact

/-- Rational numbers lie between the infinities. -/
def place : Exact → Int ×ₗ Rat
  | finite value => toLex (0, value)
  | infinite negative => toLex (if negative then -1 else 1, 0)
  | notANumber => toLex (0, 0)

theorem place_lt_iff {a b : Exact} (number : a.isNaN = false) (number' : b.isNaN = false) :
    place a < place b ↔ isBelow a b = true := by
  cases a <;> cases b <;> simp_all [place, isBelow, isNaN, Prod.Lex.toLex_lt_toLex] <;> grind

theorem place_inj {a b : Exact} (number : a.isNaN = false) (number' : b.isNaN = false) :
    place a = place b ↔ a = b := by
  cases a <;> cases b <;> simp_all [place, isNaN] <;> grind

theorem lt_iff {a b : Exact} :
    a < b ↔ (a.isNaN = false ∧ b.isNaN = false) ∧ place a < place b := by
  change isBelow a b = true ↔ _
  constructor
  · intro less
    have numbers : a.isNaN = false ∧ b.isNaN = false := by
      cases a <;> cases b <;> simp_all [isBelow, isNaN]
    exact ⟨numbers, (place_lt_iff numbers.1 numbers.2).mpr less⟩
  · rintro ⟨numbers, less⟩
    exact (place_lt_iff numbers.1 numbers.2).mp less

theorem beq_iff {a b : Exact} :
    (a == b) = true ↔ (a.isNaN = false ∧ b.isNaN = false) ∧ place a = place b := by
  change (!a.isNaN && decide (a = b)) = true ↔ _
  constructor
  · intro same
    rw [Bool.and_eq_true, Bool.not_eq_true', decide_eq_true_eq] at same
    rcases same with ⟨number, rfl⟩
    exact ⟨⟨number, number⟩, rfl⟩
  · rintro ⟨numbers, same⟩
    rw [numbers.1, (place_inj numbers.1 numbers.2).mp same]
    simp

instance : Scalar.Ranked Exact where
  Line := Int ×ₗ Rat
  place := place
  lt_iff := lt_iff
  le_iff {a b} := by
    change isBelow a b = true ∨ (a == b) = true ↔ _
    rw [beq_iff, le_iff_lt_or_eq, and_or_left]
    exact or_congr lt_iff Iff.rfl
  beq_iff := beq_iff
  compareTotal_of_lt less := if_pos less
  number_infinity := rfl
  number_neg_infinity := rfl
  le_infinity {a} number := by
    change place a ≤ place (infinite false)
    rw [← not_lt, place_lt_iff rfl number]
    cases a <;> simp [isBelow]
  neg_infinity_le {a} number := by
    change place (infinite true) ≤ place a
    rw [← not_lt, place_lt_iff number rfl]
    cases a <;> simp [isBelow]
  isFinite_iff {a} := by
    change a.isFinite = true ↔
      a.isNaN = false ∧ place (infinite true) < place a ∧ place a < place (infinite false)
    cases a with
    | finite value => simp [isFinite, isNaN, place, Prod.Lex.toLex_lt_toLex]
    | infinite negative => cases negative <;> simp [isFinite, place, Prod.Lex.toLex_lt_toLex]
    | notANumber => simp [isFinite, isNaN]

end Exact

end SeriesQuery
