import SeriesQuery.Proofs.Engine.Shape
/-!
Groups that are listed in any order before they are sorted. The order of answers goes by labels and,
for buckets, by the bound as a number, so that two spellings of one bound tie. Main statement: the
order in which groups are listed makes no difference just when no two of them tie in this way.
-/
namespace SeriesQuery

open SortedMap

namespace Labels

variable {V : Type} [Scalar V]

/-- Labels that differ in nothing but how they spell one bound. -/
def Respelt (V : Type) [Scalar V] (a b : Labels) : Prop :=
  a ≠ b ∧ a.erase boundLabel = b.erase boundLabel ∧
    ∃ bound : V, a.bound? = some bound ∧ b.bound? = some bound

theorem eq_of_erase {a b : Labels} (others : a.erase boundLabel = b.erase boundLabel)
    (bound : a.get? boundLabel = b.get? boundLabel) : a = b := by
  apply ext_get?
  intro name
  by_cases bounded : name = boundLabel
  · rw [bounded, bound]
  · have same := congrArg (fun labels : Labels => labels.get? name) others
    simpa [get?_erase, bounded] using same

/-- Labels compare as equal where they are the same, or the same but for the spelling of a bound. -/
theorem compareByBound_eq_iff [Std.LawfulEqCmp (Scalar.compareTotal : V → V → Ordering)]
    {a b : Labels} : compareByBound V a b = .eq ↔ a = b ∨ Respelt V a b := by
  rw [compareByBound, Ordering.then_eq_eq, Std.LawfulEqOrd.compare_eq_iff_eq]
  constructor
  · rintro ⟨others, bounds⟩
    by_cases same : a = b
    · exact .inl same
    refine .inr ⟨same, others, ?_⟩
    cases first : (a.bound? : Option V) with
    | none =>
        cases second : (b.bound? : Option V) with
        | none =>
            simp only [first, second, Std.LawfulEqOrd.compare_eq_iff_eq] at bounds
            exact absurd (eq_of_erase others bounds) same
        | some y => simp [first, second] at bounds
    | some x =>
        cases second : (b.bound? : Option V) with
        | none => simp [first, second] at bounds
        | some y =>
            simp only [first, second] at bounds
            exact ⟨x, rfl, congrArg some (Std.LawfulEqCmp.eq_of_compare bounds).symm⟩
  · rintro (rfl | ⟨-, others, bound, first, second⟩)
    · refine ⟨rfl, ?_⟩
      cases (a.bound? : Option V) with
      | none => exact Std.ReflOrd.compare_self
      | some x => exact @Std.ReflCmp.compare_self V Scalar.compareTotal _ x
    · refine ⟨others, ?_⟩
      simp only [first, second]
      exact Std.ReflCmp.compare_self

end Labels

namespace Grouping

variable {V : Type} [Scalar V]

/-- No two groups differ in the spelling of a bound only. -/
def Apart (groups : Grouping V) : Prop :=
  ∀ a ∈ groups.keys, ∀ b ∈ groups.keys, ¬ Labels.Respelt V a b

/-- Listed groups, reduced. -/
def reduceListed (listed : List (Labels × GroupSteps V)) (reducer : SpaceReducer) :
    List (Curve V) :=
  (arrange listed).map fun (labels, steps) => reduceGroup reducer labels steps

theorem ordered_default (groups : Grouping V) : groups.ordered = arrange groups.entries := by
  rw [ordered, listed_default]

theorem reduce_eq_reduceListed (groups : Grouping V) (reducer : SpaceReducer) :
    groups.reduce reducer = reduceListed groups.entries reducer := by
  rw [reduce, ordered_default]
  rfl

theorem labels_reduceListed (listed : List (Labels × GroupSteps V)) (reducer : SpaceReducer) :
    (reduceListed listed reducer).map (·.labels) = (arrange listed).map (·.1) := by
  simp [reduceListed, reduceGroup]

section Ordered

variable [Std.TransCmp (Scalar.compareTotal : V → V → Ordering)]

/-- Of groups that tie, the arrangement has the labels in the order in which they are listed. -/
theorem filter_arrange (listed : List (Labels × GroupSteps V)) (labels : Labels) :
    ((arrange listed).map (·.1)).filter (Labels.compareByBound V labels · = .eq) =
      (listed.map (·.1)).filter (Labels.compareByBound V labels · = .eq) := by
  have kept := filter_mergeSort
    (fun a b : Labels × GroupSteps V => Labels.compareByBound V a.1 b.1) listed (labels, ∅)
  rw [List.filter_map, List.filter_map]
  exact congrArg (List.map (·.1)) kept

variable [Std.LawfulEqCmp (Scalar.compareTotal : V → V → Ordering)]

/-- Groups that are apart are arranged in one way, however they are listed. -/
theorem arrange_eq_ordered {groups : Grouping V} (apart : groups.Apart)
    {listed : List (Labels × GroupSteps V)} (perm : listed.Perm groups.entries)
    (listing : Labels → Nat) : arrange listed = groups.ordered listing := by
  have stored := groups.listed_perm listing
  refine mergeSort_eq_of_perm (fun a b : Labels × GroupSteps V => Labels.compareByBound V a.1 b.1)
    (perm.trans stored.symm) ?_
  intro a first b second tie
  have first := stored.subset first
  have second := stored.subset second
  rcases Labels.compareByBound_eq_iff.mp tie with same | respelt
  · have found := get?_eq_some_iff.mpr first
    rw [same] at found
    exact Prod.ext same (Option.some.inj (found.symm.trans (get?_eq_some_iff.mpr second)))
  · exact absurd respelt (apart a.1 (List.mem_map_of_mem first) b.1 (List.mem_map_of_mem second))

theorem reduceListed_eq_reduce {groups : Grouping V} (apart : groups.Apart)
    {listed : List (Labels × GroupSteps V)} (perm : listed.Perm groups.entries)
    (reducer : SpaceReducer) : reduceListed listed reducer = groups.reduce reducer := by
  rw [reduceListed, arrange_eq_ordered apart perm fun _ => 0]
  rfl

/-- Of two groups that tie, either may come first. -/
theorem exists_listed_of_respelt {groups : Grouping V} {a b : Labels} (first : a ∈ groups.keys)
    (second : b ∈ groups.keys) (respelt : Labels.Respelt V a b) :
    ∃ listed, listed.Perm groups.entries ∧
      (arrange listed).map (·.1) ≠ groups.ordered.map (·.1) := by
  rcases List.mem_map.mp first with ⟨one, inside, rfl⟩
  rcases List.mem_map.mp second with ⟨other, inside', rfl⟩
  rcases List.append_of_mem inside with ⟨before, after, split⟩
  have toFront : (one :: (before ++ after)).Perm groups.entries :=
    split ▸ List.perm_middle.symm
  have others : other ∈ before ++ after := by
    rcases List.mem_cons.mp (toFront.mem_iff.mpr inside') with rfl | later
    · exact absurd rfl respelt.1
    · exact later
  rcases List.append_of_mem others with ⟨before', after', split'⟩
  -- Two listings that differ only in which of the tied groups comes first.
  have forward : (one :: other :: (before' ++ after')).Perm groups.entries :=
    (List.Perm.cons one (split' ▸ List.perm_middle.symm)).trans toFront
  have backward : (other :: one :: (before' ++ after')).Perm groups.entries :=
    (List.Perm.swap one other _).trans forward
  apply Classical.byContradiction
  intro settled
  have always (listed : List (Labels × GroupSteps V)) (perm : listed.Perm groups.entries) :
      (arrange listed).map (·.1) = groups.ordered.map (·.1) :=
    Classical.byContradiction fun unlike => settled ⟨listed, perm, unlike⟩
  have same := (always _ forward).trans (always _ backward).symm
  -- A stable sort keeps the groups that tie with the first one as they are listed.
  have tied := congrArg (List.filter (Labels.compareByBound V one.1 · = .eq)) same
  have self : Labels.compareByBound V one.1 one.1 = .eq := Std.ReflCmp.compare_self
  have tie : Labels.compareByBound V one.1 other.1 = .eq :=
    Labels.compareByBound_eq_iff.mpr (.inr respelt)
  rw [filter_arrange, filter_arrange] at tied
  simp only [List.map_cons, List.filter_cons, self, tie, decide_true, if_true] at tied
  exact respelt.1 (List.cons.inj tied).1

end Ordered

end Grouping

namespace Plan

variable {V : Type} [Scalar V]

/-- What a plan answers if its groups are listed in some order. -/
def answerListed (plan : Plan V) (type : MetricType) (listed : List (Labels × GroupSteps V)) :
    List (Curve V) :=
  let curves := Grouping.reduceListed listed (groupReducer plan.spaceReducer type)
  match type, plan.bucketQuery? with
  | .histogram, some query => (collapse curves query).1
  | _, _ => curves

theorem answer_eq_answerListed (plan : Plan V) (type : MetricType) (series : List (Series V)) :
    (plan.answer type series).1 = plan.answerListed type (plan.groups type series).entries := by
  unfold answer answerListed
  rw [reduced, Grouping.reduce_eq_reduceListed]
  split <;> simp_all [groups]

end Plan

namespace Grouping

theorem arranged_iff (groups : Grouping Float) :
    (∀ a b, Labels.compareByBound Float b a = (Labels.compareByBound Float a b).swap) ∧
    (∀ a b c, (Labels.compareByBound Float a b).isLE → (Labels.compareByBound Float b c).isLE →
      (Labels.compareByBound Float a c).isLE) ∧
    (∀ a b, Labels.compareByBound Float a b = .eq ↔ a = b ∨ Labels.Respelt Float a b) ∧
    ((∀ listed, listed.Perm groups.entries → arrange listed = groups.ordered ∧
      ∀ reducer, reduceListed listed reducer = groups.reduce reducer) ↔ groups.Apart) ∧
    (groups.Apart → ∀ (plan : Plan Float) type series, plan.groups type series = groups →
      ∀ listed, listed.Perm groups.entries →
        plan.answerListed type listed = (plan.answer type series).1) := by
  refine ⟨fun _ _ => Std.OrientedCmp.eq_swap, fun _ _ _ => Std.TransCmp.isLE_trans,
    fun _ _ => Labels.compareByBound_eq_iff, ⟨?_, ?_⟩, ?_⟩
  · intro settled a first b second respelt
    rcases exists_listed_of_respelt first second respelt with ⟨listed, perm, unlike⟩
    exact unlike (congrArg (List.map (·.1)) (settled listed perm).1)
  · intro apart listed perm
    exact ⟨arrange_eq_ordered apart perm _, reduceListed_eq_reduce apart perm⟩
  · rintro apart plan type series rfl listed perm
    rw [Plan.answer_eq_answerListed]
    unfold Plan.answerListed
    rw [reduceListed_eq_reduce apart perm, reduce_eq_reduceListed]

/-- The labels of a bucket of the histogram with a bound spelt in two ways. -/
def speltBucket (bound : String) : Labels := .ofList [("host", "a"), ("le", bound)]

theorem arranged_spelt :
    Labels.compareByBound Float (speltBucket "1") (speltBucket "1.0") = .eq ∧
    speltBucket "1" ≠ speltBucket "1.0" ∧
    ∃ listed, listed.Perm
        (Engine.speltPlan.groups .histogram (Engine.speltPlan.select Engine.spelt)).entries ∧
      Engine.speltPlan.answerListed .histogram listed ≠
        (Engine.speltPlan.answer .histogram (Engine.speltPlan.select Engine.spelt)).1 := by
  have respelt : Labels.Respelt Float (speltBucket "1") (speltBucket "1.0") :=
    ⟨by decide, by decide, 1, by decide, by decide⟩
  have first : speltBucket "1" ∈
      (Engine.speltPlan.groups .histogram (Engine.speltPlan.select Engine.spelt)).keys := by
    decide +kernel
  have second : speltBucket "1.0" ∈
      (Engine.speltPlan.groups .histogram (Engine.speltPlan.select Engine.spelt)).keys := by
    decide +kernel
  rcases exists_listed_of_respelt first second respelt with ⟨listed, perm, unlike⟩
  refine ⟨Labels.compareByBound_eq_iff.mpr (.inr respelt), respelt.1, listed, perm, ?_⟩
  intro same
  have labels := congrArg (List.map (·.labels)) same
  rw [Plan.answer_eq_answerListed] at labels
  rw [ordered_default] at unlike
  exact unlike ((labels_reduceListed listed .sum).symm.trans
    (labels.trans (labels_reduceListed _ .sum)))

end Grouping

end SeriesQuery
