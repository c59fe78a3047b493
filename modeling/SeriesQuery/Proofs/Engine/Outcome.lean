import SeriesQuery.Proofs.Engine.Groups
import SeriesQuery.Proofs.Plan
/-!
When the engine answers. It does so just when the series that the plan looks at are of one type that
the plan accepts, and then with what the plan makes of their curves; curves without points make no
difference to it.
-/
namespace SeriesQuery

open SortedMap

variable {V : Type} [Scalar V]

namespace Plan

omit [Scalar V] in
theorem type_of_commonType {metric : String} {series : List (Series V)}
    {found : Option MetricType} (common : commonType metric series = .ok found) :
    ∀ member ∈ series, found = some member.type := by
  cases series with
  | nil =>
      intro member held
      cases held
  | cons first rest =>
      rw [commonType] at common
      split at common
      · cases common
      · rename_i alike
        cases common
        intro member held
        rcases List.mem_cons.mp held with rfl | later
        · rfl
        · have same := List.find?_eq_none.mp alike member later
          rw [bne_iff_ne, Ne, Classical.not_not] at same
          rw [same]

omit [Scalar V] in
/-- Series have no common type just when two of them differ in type. -/
theorem commonType_eq_error_iff {metric : String} {series : List (Series V)} :
    (∃ fault, commonType metric series = .error fault) ↔
      ∃ a ∈ series, ∃ b ∈ series, a.type ≠ b.type := by
  constructor
  · rintro ⟨fault, mixed⟩
    cases series with
    | nil => cases mixed
    | cons first rest =>
        rw [commonType] at mixed
        split at mixed
        · rename_i other found
          have unlike := List.find?_some found
          rw [bne_iff_ne] at unlike
          exact ⟨other, List.mem_cons_of_mem _ (List.mem_of_find?_eq_some found), first,
            List.mem_cons_self, unlike⟩
        · cases mixed
  · rintro ⟨a, first, b, second, unlike⟩
    cases common : commonType metric series with
    | error fault => exact ⟨fault, rfl⟩
    | ok found =>
        have same := type_of_commonType common
        exact absurd (Option.some.inj ((same a first).symm.trans (same b second))) unlike

omit [Scalar V] in
theorem commonType_eq_some_iff {metric : String} {series : List (Series V)} {type : MetricType} :
    commonType metric series = .ok (some type) ↔
      series ≠ [] ∧ ∀ member ∈ series, member.type = type := by
  constructor
  · intro common
    refine ⟨?_, fun member held => (Option.some.inj (type_of_commonType common member held)).symm⟩
    rintro rfl
    cases common
  · rintro ⟨some', uniform⟩
    rw [commonType_eq metric uniform]
    cases series with
    | nil => exact absurd rfl some'
    | cons first rest => rfl

/-- The curves that a plan makes of series, without those that have no points. -/
def filled (plan : Plan V) (series : List (Series V)) : List (Curve V) :=
  (series.map plan.curve).filter fun curve => !curve.points.isEmpty

theorem answer_eq_of_filled {plan : Plan V} {series others : List (Series V)}
    (same : plan.filled series = plan.filled others) (type : MetricType)
    (listing : Labels → Nat) :
    plan.answer type series listing = plan.answer type others listing := by
  have groups : plan.groups type series = plan.groups type others := by
    unfold groups
    rw [← Grouping.ofCurves_filled, ← Grouping.ofCurves_filled _ _ (others.map plan.curve)]
    exact congrArg (Grouping.ofCurves _ _) same
  unfold answer reduced
  rw [groups]

end Plan

namespace Engine

variable {engine : Engine V} {request : Request V} {schedule : Schedule}

/-- Without series to look at, the answer is empty. -/
theorem query_eq_nil {plan : Plan V} (planned : engine.plan request = .ok plan)
    (nothing : plan.select engine.store = []) : (engine.query request schedule).2 = .ok [] := by
  simp only [query, planned, execute, Plan.fetch_eq_select, nothing]
  rfl

/-- An engine that refuses a request has no plan for it, or no one type that the plan accepts. -/
theorem query_eq_error_iff {failure : Failure} :
    (engine.query request schedule).2 = .error failure ↔
      engine.plan request = .error failure ∨
        ∃ plan, engine.plan request = .ok plan ∧ ∃ fault, failure = .query fault ∧
          (Plan.commonType plan.metric (plan.select engine.store) = .error fault ∨
            ∃ type, Plan.commonType plan.metric (plan.select engine.store) = .ok (some type) ∧
              plan.checkType type = .error fault) := by
  cases planned : engine.plan request with
  | error reason => simp [query, planned]
  | ok plan =>
      simp only [query, planned, execute, Plan.fetch_eq_select]
      cases common : Plan.commonType plan.metric (plan.select engine.store) with
      | error fault => simp [common, eq_comm]
      | ok found =>
          cases found with
          | none => simp [common]
          | some type =>
              cases accepted : plan.checkType type with
              | error fault => simp [common, accepted, eq_comm]
              | ok _ => simp [common, accepted]

/-- When a request is refused: without a plan, over series of several types, or over series of a
type that its plan does not accept. -/
theorem refused_iff :
    (∃ failure, (engine.query request schedule).2 = .error failure) ↔
      (∃ failure, engine.plan request = .error failure) ∨
      ∃ plan, engine.plan request = .ok plan ∧
        ((∃ a ∈ plan.select engine.store, ∃ b ∈ plan.select engine.store, a.type ≠ b.type) ∨
        ∃ type, plan.select engine.store ≠ [] ∧
          (∀ series ∈ plan.select engine.store, series.type = type) ∧
          ∃ fault, plan.checkType type = .error fault) := by
  constructor
  · rintro ⟨failure, failed⟩
    rcases query_eq_error_iff.mp failed with
      unplanned | ⟨plan, planned, fault, -, mixed | ⟨type, common, unfit⟩⟩
    · exact .inl ⟨failure, unplanned⟩
    · exact .inr ⟨plan, planned, .inl (Plan.commonType_eq_error_iff.mp ⟨fault, mixed⟩)⟩
    · have ⟨some', uniform⟩ := Plan.commonType_eq_some_iff.mp common
      exact .inr ⟨plan, planned, .inr ⟨type, some', uniform, fault, unfit⟩⟩
  · rintro (⟨failure, unplanned⟩ | ⟨plan, planned, mixed | ⟨type, some', uniform, fault, unfit⟩⟩)
    · exact ⟨failure, query_eq_error_iff.mpr (.inl unplanned)⟩
    · have ⟨fault, failed⟩ :
          ∃ fault, Plan.commonType plan.metric (plan.select engine.store) = .error fault :=
        Plan.commonType_eq_error_iff.mpr mixed
      exact ⟨.query fault,
        query_eq_error_iff.mpr (.inr ⟨plan, planned, fault, rfl, .inl failed⟩)⟩
    · have common :
          Plan.commonType plan.metric (plan.select engine.store) = .ok (some type) :=
        Plan.commonType_eq_some_iff.mpr ⟨some', uniform⟩
      exact ⟨.query fault,
        query_eq_error_iff.mpr (.inr ⟨plan, planned, fault, rfl, .inr ⟨type, common, unfit⟩⟩)⟩

/-- An engine that answers has met series of one type, which its plan accepts. -/
theorem answered_of_query_eq_ok {plan : Plan V} {curves : List (Curve V)}
    (planned : engine.plan request = .ok plan)
    (answered : (engine.query request schedule).2 = .ok curves) :
    ∃ type, (∀ series ∈ plan.sources engine.store, series.type = type) ∧
      plan.checkType type = .ok () ∧
      curves = (plan.answer type ((engine.arrivals plan schedule).map plan.cut)
        schedule.listing).1 := by
  -- What is accepted is known from the run, and then so is what the run answers.
  have settled {type : MetricType}
      (uniform : ∀ series ∈ plan.sources engine.store, series.type = type)
      (accepted : plan.checkType type = .ok ()) :
      curves = (plan.answer type ((engine.arrivals plan schedule).map plan.cut)
        schedule.listing).1 :=
    Except.ok.inj (answered.symm.trans (query_eq_answer planned uniform accepted schedule))
  simp only [query, planned, execute, Plan.fetch_eq_select] at answered
  cases common : Plan.commonType plan.metric (plan.select engine.store) with
  | error fault =>
      rw [common] at answered
      cases answered
  | ok found =>
      have types := Plan.type_of_commonType common
      rw [common] at answered
      cases found with
      | none =>
          have uniform : ∀ series ∈ plan.sources engine.store, series.type = .histogram :=
            Plan.types_select_iff.mp fun member held => by cases types member held
          exact ⟨.histogram, uniform, rfl, settled uniform rfl⟩
      | some type =>
          have uniform : ∀ series ∈ plan.sources engine.store, series.type = type :=
            Plan.types_select_iff.mp fun member held =>
              (Option.some.inj (types member held)).symm
          cases accepted : plan.checkType type with
          | error fault =>
              simp only [accepted] at answered
              cases answered
          | ok _ => exact ⟨type, uniform, accepted, settled uniform accepted⟩

end Engine

end SeriesQuery
