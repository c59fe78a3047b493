import SeriesQuery.Scalar
/-!
Values without rounding: the rational numbers, two infinities and the value that is not a number.
They add, compare and so on as doubles do, but that every finite result is exact and there is only
one zero.
-/
namespace SeriesQuery

/-- Arithmetic in which finite values are added without rounding. -/
class Scalar.Unrounded (V : Type) [Scalar V] : Prop where
  isFinite_add {a b : V} : isFinite a = true → isFinite b = true → isFinite (a + b) = true
  le_add {a b : V} : isFinite a = true → isFinite b = true → ofNat 0 ≤ b → a ≤ a + b
  add_sub {a b : V} : isFinite a = true → isFinite b = true → a + b - a = b

/-- Whether values fold into the same result in whatever order and in whatever parts they come. -/
structure Scalar.Folds {V : Type} (join : V → V → V) (start : V) : Prop where
  comm (a b : V) : join a b = join b a
  assoc (a b c : V) : join (join a b) c = join a (join b c)
  start : join start start = start

/-- Arithmetic in which sums, minima and maxima do not depend on the order of the values. -/
class Scalar.Regroupable (V : Type) [Scalar V] : Prop where
  add : Folds (V := V) (· + ·) (-ofNat 0)
  least : Folds (V := V) least infinity
  greatest : Folds (V := V) greatest (-infinity)
  one : -ofNat 0 + ofNat 1 = (ofNat 1 : V)
  succ (number : Nat) : ofNat number + ofNat 1 = (ofNat (number + 1) : V)

inductive Exact where
  | finite (value : Rat)
  | infinite (negative : Bool)
  | notANumber
  deriving DecidableEq, Repr

namespace Exact

def isFinite : Exact → Bool
  | finite _ => true
  | _ => false

def isNaN : Exact → Bool
  | notANumber => true
  | _ => false

/-- Whether a value lies below zero, by its sign. -/
def isNegative : Exact → Bool
  | finite value => decide (value < 0)
  | infinite negative => negative
  | notANumber => false

def neg : Exact → Exact
  | finite value => finite (-value)
  | infinite negative => infinite !negative
  | notANumber => notANumber

def add : Exact → Exact → Exact
  | finite a, finite b => finite (a + b)
  | finite _, infinite negative => infinite negative
  | infinite negative, finite _ => infinite negative
  | infinite a, infinite b => if a = b then infinite a else notANumber
  | _, _ => notANumber

/-- The infinity with the sign of a product. -/
def signed (a b : Exact) : Exact := infinite (a.isNegative != b.isNegative)

def mul : Exact → Exact → Exact
  | finite a, finite b => finite (a * b)
  | notANumber, _ => notANumber
  | _, notANumber => notANumber
  | a, b => if a = finite 0 ∨ b = finite 0 then notANumber else signed a b

def div : Exact → Exact → Exact
  | notANumber, _ => notANumber
  | _, notANumber => notANumber
  | infinite _, infinite _ => notANumber
  | finite _, infinite _ => finite 0
  | infinite negative, b => signed (infinite negative) b
  | finite a, finite b =>
    if b ≠ 0 then finite (a / b) else if a = 0 then notANumber else signed (finite a) (finite b)

/-- Whether a value is less than another one; nothing is less or more than no number. -/
def isBelow : Exact → Exact → Bool
  | finite a, finite b => decide (a < b)
  | infinite a, infinite b => a && !b
  | infinite a, finite _ => a
  | finite _, infinite b => !b
  | _, _ => false

instance : Add Exact := ⟨add⟩

instance : Sub Exact := ⟨fun a b => add a (neg b)⟩

instance : Mul Exact := ⟨mul⟩

instance : Div Exact := ⟨div⟩

instance : Neg Exact := ⟨neg⟩

instance : BEq Exact := ⟨fun a b => !a.isNaN && decide (a = b)⟩

instance : LT Exact := ⟨fun a b => isBelow a b = true⟩

instance : LE Exact := ⟨fun a b => isBelow a b = true ∨ (a == b) = true⟩

instance : DecidableLT Exact := fun a b => inferInstanceAs (Decidable (isBelow a b = true))

instance : DecidableLE Exact := fun a b =>
  inferInstanceAs (Decidable (isBelow a b = true ∨ (a == b) = true))

def ofDecimal (decimal : Decimal) : Exact :=
  let unsigned : Rat := decimal.coefficient * (10 : Rat) ^ decimal.exponent
  finite (if decimal.negative then -unsigned else unsigned)

def ofNumeral : Numeral → Exact
  | .finite decimal => ofDecimal decimal
  | .infinite negative => infinite negative
  | .notANumber => notANumber

/-- The value that is not a number comes after all others. -/
def compareTotal (a b : Exact) : Ordering :=
  if isBelow a b then .lt
  else if isBelow b a then .gt
  else compare a.isNaN b.isNaN

def floor : Exact → Nat
  | finite value => value.floor.toNat
  | _ => 0

instance : Scalar Exact where
  ofNat number := finite number
  ofNumeral := ofNumeral
  infinity := infinite false
  isFinite := isFinite
  isNaN := isNaN
  compareTotal := compareTotal
  floor := floor
  decidableLT := inferInstance
  decidableLE := inferInstance

theorem isFinite_eq_true_iff {value : Exact} :
    Scalar.isFinite value = true ↔ ∃ number, value = finite number := by
  constructor
  · intro held
    cases value with
    | finite number => exact ⟨number, rfl⟩
    | infinite negative => cases held
    | notANumber => cases held
  · rintro ⟨number, rfl⟩
    rfl

theorem finite_le_iff {a b : Rat} : finite a ≤ finite b ↔ a ≤ b := by
  have cases' : finite a ≤ finite b ↔ a < b ∨ a = b := by
    change decide (a < b) = true ∨ (!false && decide (finite a = finite b)) = true ↔ _
    simp
  rw [cases']
  grind

theorem finite_lt_iff {a b : Rat} : finite a < finite b ↔ a < b := by
  change decide (a < b) = true ↔ _
  exact decide_eq_true_iff

theorem finite_beq_iff {a b : Rat} : (finite a == finite b) = true ↔ a = b := by
  change (!false && decide (finite a = finite b)) = true ↔ _
  simp

theorem finite_add (a b : Rat) : finite a + finite b = finite (a + b) := rfl

theorem finite_sub (a b : Rat) : finite a - finite b = finite (a - b) :=
  congrArg finite (Rat.sub_eq_add_neg a b).symm

theorem finite_mul (a b : Rat) : finite a * finite b = finite (a * b) := rfl

theorem finite_div {a b : Rat} (divisor : b ≠ 0) : finite a / finite b = finite (a / b) :=
  if_pos divisor

instance : Scalar.Unrounded Exact where
  isFinite_add first second := by
    rcases isFinite_eq_true_iff.mp first with ⟨a, rfl⟩
    rcases isFinite_eq_true_iff.mp second with ⟨b, rfl⟩
    rfl
  le_add first second positive := by
    rcases isFinite_eq_true_iff.mp first with ⟨a, rfl⟩
    rcases isFinite_eq_true_iff.mp second with ⟨b, rfl⟩
    have above : (0 : Rat) ≤ b := finite_le_iff.mp positive
    exact finite_le_iff.mpr (by grind)
  add_sub first second := by
    rcases isFinite_eq_true_iff.mp first with ⟨a, rfl⟩
    rcases isFinite_eq_true_iff.mp second with ⟨b, rfl⟩
    have cancel : a + b + -a = b := by grind
    exact congrArg finite cancel

theorem least_eq (a b : Exact) :
    Scalar.least a b = if a.isNaN then b else if isBelow b a then b else a := rfl

theorem greatest_eq (a b : Exact) :
    Scalar.greatest a b = if a.isNaN then b else if isBelow a b then b else a := rfl

theorem folds_add : Scalar.Folds add (finite 0) where
  comm a b := by
    cases a <;> cases b <;> grind [add]
  assoc a b c := by
    cases a <;> cases b <;> cases c <;> grind [add]
  start := congrArg finite (Rat.add_zero 0)

theorem folds_least : Scalar.Folds Scalar.least (infinite false) where
  comm a b := by
    cases a <;> cases b <;> grind [least_eq, isNaN, isBelow]
  assoc a b c := by
    cases a <;> cases b <;> cases c <;> grind [least_eq, isNaN, isBelow]
  start := rfl

theorem folds_greatest : Scalar.Folds Scalar.greatest (infinite true) where
  comm a b := by
    cases a <;> cases b <;> grind [greatest_eq, isNaN, isBelow]
  assoc a b c := by
    cases a <;> cases b <;> cases c <;> grind [greatest_eq, isNaN, isBelow]
  start := rfl

instance : Scalar.Regroupable Exact where
  add := folds_add
  least := folds_least
  greatest := folds_greatest
  one := by decide +kernel
  succ number := by
    change finite ((number : Rat) + (1 : Nat)) = finite ((number + 1 : Nat) : Rat)
    push_cast
    rfl

theorem compareTotal_eq (a b : Exact) :
    compareTotal a b =
      if isBelow a b ∨ (a.isNaN = false ∧ b.isNaN) then .lt
      else if isBelow b a ∨ (a.isNaN ∧ b.isNaN = false) then .gt
      else .eq := by
  unfold compareTotal
  cases a <;> cases b <;> simp [isBelow, isNaN] <;> rfl

instance : Std.TransCmp (Scalar.compareTotal : Exact → Exact → Ordering) where
  eq_swap {a b} := by
    change compareTotal a b = (compareTotal b a).swap
    rw [compareTotal_eq, compareTotal_eq]
    have less : Ordering.lt.swap = .gt := rfl
    have more : Ordering.gt.swap = .lt := rfl
    have same : Ordering.eq.swap = .eq := rfl
    cases a <;> cases b <;> grind [isBelow, isNaN]
  isLE_trans {a b c} first second := by
    change (compareTotal a b).isLE at first
    change (compareTotal b c).isLE at second
    change (compareTotal a c).isLE
    rw [compareTotal_eq] at first second ⊢
    cases a <;> cases b <;> cases c <;> grind [isBelow, isNaN, Ordering.isLE]

instance : Std.LawfulEqCmp (Scalar.compareTotal : Exact → Exact → Ordering) where
  compare_self := Std.ReflCmp.compare_self
  eq_of_compare {a b} equal := by
    change compareTotal a b = .eq at equal
    rw [compareTotal_eq] at equal
    cases a <;> cases b <;> grind [isBelow, isNaN]

end Exact

end SeriesQuery
