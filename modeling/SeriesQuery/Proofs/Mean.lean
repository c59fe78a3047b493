import Mathlib.Algebra.Order.BigOperators.Group.List
import Mathlib.Algebra.Order.Field.Rat
import SeriesQuery.Proofs.Regrouping
/-!
Totals and means of values without rounding. One infinity settles a total, two opposite ones leave
none; the mean of rational numbers lies between the least and the greatest of them.
-/
namespace SeriesQuery

namespace Exact

theorem foldl_finite {α : Type} (amount : α → Rat) (items : List α) (start : Rat) :
    (items.map fun item => finite (amount item)).foldl (· + ·) (finite start) =
      finite (start + (items.map amount).sum) := by
  induction items generalizing start with
  | nil => simp
  | cons item rest ih =>
      simp only [List.map_cons, List.foldl_cons, finite_add, ih, List.sum_cons, Rat.add_assoc]

theorem sum_finite {α : Type} (amount : α → Rat) (items : List α) :
    Scalar.sum (items.map fun item => finite (amount item)) = finite (items.map amount).sum :=
  (foldl_finite amount items 0).trans (by rw [Rat.zero_add])

theorem sum_append (values others : List Exact) :
    Scalar.sum (values ++ others) = Scalar.sum values + Scalar.sum others :=
  folds_add.foldl_append values others

theorem sum_single (value : Exact) : Scalar.sum [value] = value := by
  cases value with
  | finite value => exact congrArg finite (by simp)
  | infinite negative => rfl
  | notANumber => rfl

theorem sum_of_mem {values : List Exact} {value : Exact} (member : value ∈ values) :
    ∃ rest, values.Perm (value :: rest) ∧ Scalar.sum values = value + Scalar.sum rest := by
  rcases List.append_of_mem member with ⟨front, back, rfl⟩
  refine ⟨front ++ back, List.perm_middle, ?_⟩
  calc Scalar.sum (front ++ value :: back)
    _ = Scalar.sum ([value] ++ (front ++ back)) := folds_add.foldl_perm List.perm_middle
    _ = value + Scalar.sum (front ++ back) := by rw [sum_append, sum_single]

/-- Finite values and one of the infinities. -/
inductive Leans (negative : Bool) : Exact → Prop where
  | finite (value : Rat) : Leans negative (.finite value)
  | infinite : Leans negative (.infinite negative)

theorem leans_of_ne {negative : Bool} {value : Exact} (number : value.isNaN = false)
    (apart : value ≠ infinite !negative) : Leans negative value := by
  cases value with
  | finite value => exact .finite value
  | infinite sign =>
      have same : sign = negative := by
        cases sign <;> cases negative <;> first | rfl | exact absurd rfl apart
      rw [same]
      exact .infinite
  | notANumber => cases number

theorem infinite_add_infinite (negative : Bool) :
    infinite negative + infinite negative = infinite negative := if_pos rfl

theorem Leans.add {negative : Bool} {a b : Exact} (first : Leans negative a)
    (second : Leans negative b) : Leans negative (a + b) := by
  cases first with
  | finite value =>
      cases second with
      | finite other => exact .finite (value + other)
      | infinite => exact .infinite
  | infinite =>
      cases second with
      | finite other => exact .infinite
      | infinite =>
          rw [infinite_add_infinite]
          exact .infinite

theorem Leans.infinite_add {negative : Bool} {a : Exact} (leans : Leans negative a) :
    Exact.infinite negative + a = .infinite negative := by
  cases leans with
  | finite value => rfl
  | infinite => exact infinite_add_infinite negative

theorem leans_sum {negative : Bool} {values : List Exact}
    (leans : ∀ value ∈ values, Leans negative value) : Leans negative (Scalar.sum values) := by
  induction values with
  | nil => exact .finite _
  | cons value rest ih =>
      have first := leans value List.mem_cons_self
      have others := ih fun other member => leans other (List.mem_cons_of_mem _ member)
      rw [← List.singleton_append, sum_append, sum_single]
      exact first.add others

/-- One infinity settles a total that the other has no part in. -/
theorem sum_infinite {negative : Bool} {values : List Exact}
    (leans : ∀ value ∈ values, Leans negative value) (member : infinite negative ∈ values) :
    Scalar.sum values = infinite negative := by
  rcases sum_of_mem member with ⟨rest, perm, total⟩
  rw [total]
  exact (leans_sum fun value among =>
    leans value (perm.mem_iff.mpr (List.mem_cons_of_mem _ among))).infinite_add

/-- Opposite infinities have no total. -/
theorem sum_opposite {values : List Exact} (below : infinite true ∈ values)
    (above : infinite false ∈ values) : Scalar.sum values = notANumber := by
  rcases sum_of_mem below with ⟨rest, perm, total⟩
  rcases List.mem_cons.mp (perm.mem_iff.mp above) with same | among
  · cases same
  rcases sum_of_mem among with ⟨others, -, remaining⟩
  rw [total, remaining]
  change Exact.add (infinite true) (Exact.add (infinite false) (Scalar.sum others)) = notANumber
  cases Scalar.sum others <;> grind [Exact.add]

theorem exists_amounts {values : List Exact}
    (finite' : ∀ value ∈ values, Scalar.isFinite value = true) :
    ∃ amounts : List Rat, values = amounts.map .finite := by
  induction values with
  | nil => exact ⟨[], rfl⟩
  | cons value rest ih =>
      rcases isFinite_eq_true_iff.mp (finite' value List.mem_cons_self) with ⟨amount, rfl⟩
      obtain ⟨amounts, rfl⟩ := ih fun other member => finite' other (List.mem_cons_of_mem _ member)
      exact ⟨amount :: amounts, rfl⟩

/-- The mean of rational numbers lies between any two that they lie between. -/
theorem mean_between {amounts : List Rat} {low high : Rat} (filled : 0 < amounts.length)
    (above : ∀ amount ∈ amounts, low ≤ amount) (below : ∀ amount ∈ amounts, amount ≤ high) :
    low ≤ amounts.sum / amounts.length ∧ amounts.sum / amounts.length ≤ high := by
  have positive : (0 : Rat) < amounts.length := by exact_mod_cast filled
  have least := List.card_nsmul_le_sum amounts low above
  have greatest := List.sum_le_card_nsmul amounts high below
  rw [nsmul_eq_mul] at least greatest
  constructor
  · rw [le_div_iff₀ positive, mul_comm]
    exact least
  · rw [div_le_iff₀ positive, mul_comm]
    exact greatest

end Exact

end SeriesQuery
