import SeriesQuery.Proofs.Engine.Listings
/-!
Runs of one plan under different schedules. Main statement: a run is like another one if series come
in the same order, or a single worker takes them, and if groups that tie are listed alike, or none
tie.
-/
namespace SeriesQuery

open SortedMap

variable {V : Type} [Scalar V]

/-! Groups that do not tie -/

namespace Labels

/-- Labels that do not tie stand in one order under every listing. -/
theorem Precedes.relist [Std.LawfulEqCmp (Scalar.compareTotal : V → V → Ordering)]
    {listing other : Labels → Nat} {a b : Labels} (forward : Precedes V listing a b)
    (apart : ¬ Respelt V a b) : Precedes V other a b := by
  have strict : compareByBound V a b = .lt := by
    cases held : compareByBound V a b with
    | lt => rfl
    | gt => exact absurd held forward.ne_gt
    | eq =>
        rcases compareByBound_eq_iff.mp held with rfl | respelt
        · have self : compareListed listing a a = .eq := Std.ReflCmp.compare_self
          rw [Precedes, compareLex, held, Ordering.eq_then, self] at forward
          cases forward
        · exact absurd respelt apart
  rw [Precedes, compareLex, strict]
  rfl

end Labels

namespace Plan

/-- The labels of the group that a series belongs to. -/
def groupOf (plan : Plan V) (series : Series V) : Labels :=
  series.key.labels.groupKey plan.groupBy (series.type = .histogram)

/-- Whether no two groups of what a plan looks at differ in the spelling of a bound only. -/
def Apart (plan : Plan V) (store : Store V) : Prop :=
  ∀ a ∈ plan.sources store, plan.points a ≠ [] → ∀ b ∈ plan.sources store, plan.points b ≠ [] →
    ¬ Labels.Respelt V (plan.groupOf a) (plan.groupOf b)

theorem Apart.groups {plan : Plan V} {store : Store V} {type : MetricType}
    (apart : plan.Apart store) (uniform : ∀ series ∈ plan.sources store, series.type = type)
    {members : List (Series V)} (perm : members.Perm (plan.sources store)) :
    (plan.groups type (members.map plan.cut)).Apart := by
  intro a first b second
  rcases mem_keys_groups.mp first with ⟨member, held, rfl, some'⟩
  rcases mem_keys_groups.mp second with ⟨other, held', rfl, some''⟩
  have source := perm.mem_iff.mp held
  have source' := perm.mem_iff.mp held'
  have distinct := apart member source some' other source' some''
  rwa [groupOf, groupOf, uniform member source, uniform other source'] at distinct

/-- Where no groups tie, it does not matter how they are listed. -/
theorem answer_relist [Std.TransCmp (Scalar.compareTotal : V → V → Ordering)]
    [Std.LawfulEqCmp (Scalar.compareTotal : V → V → Ordering)] {plan : Plan V} {type : MetricType}
    {series : List (Series V)} (apart : (plan.groups type series).Apart)
    (listing other : Labels → Nat) :
    plan.answer type series listing = plan.answer type series other := by
  have same : (plan.groups type series).ordered listing =
      (plan.groups type series).ordered other :=
    Grouping.arrange_eq_ordered apart (Grouping.listed_perm _ listing) other
  unfold answer reduced Grouping.reduce
  rw [same]

/-- Answers show the same at a step if their reduced series do, and if buckets that are read come in
the same order. -/
theorem shows_answer_iff [Std.TransCmp (Scalar.compareTotal : V → V → Ordering)]
    [Std.LawfulEqCmp (Scalar.compareTotal : V → V → Ordering)] {plan other : Plan V}
    (asked : plan.bucketQuery? = other.bucketQuery?) {type : MetricType}
    {series others : List (Series V)} {listing later : Labels → Nat}
    (alike : ¬ plan.ReadsBuckets ∨ (other.groups type others).Apart ∨ listing = later)
    {boundary : Int}
    (same : ∀ labels value,
      Curve.Shows (plan.reduced type series listing) labels boundary value ↔
        Curve.Shows (other.reduced type others later) labels boundary value)
    (labels : Labels) (value : V) :
    Curve.Shows (plan.answer type series listing).1 labels boundary value ↔
      Curve.Shows (other.answer type others later).1 labels boundary value := by
  unfold answer
  rw [← asked]
  split
  · rename_i query asking
    have reads : plan.ReadsBuckets :=
      bucketQuery?_isSome_iff.mp (Option.isSome_of_eq_some asking)
    have ordered : ((other.reduced .histogram others later).map (·.labels)).Pairwise
        (Labels.Precedes V listing) := by
      rcases alike with plain | apart | rfl
      · exact absurd reads plain
      · refine (other.ordered_reduced .histogram others later).imp_of_mem ?_
        intro a b first second before
        have key {labels : Labels}
            (held : labels ∈ (other.reduced .histogram others later).map (·.labels)) :
            labels ∈ (other.groups .histogram others).keys := by
          rw [reduced, Grouping.labels_reduce] at held
          exact (((other.groups .histogram others).ordered_perm later).map Prod.fst).subset held
        exact before.relist (apart a (key first) b (key second))
      · exact other.ordered_reduced .histogram others listing
    have column := Curve.column_eq (plan.ordered_reduced .histogram series listing) ordered same
    have buckets : bucketsAt (plan.reduced .histogram series listing) labels boundary =
        bucketsAt (other.reduced .histogram others later) labels boundary := by
      rw [bucketsAt_eq, bucketsAt_eq, column]
    dsimp only
    rw [(collapse_collapsed _ query).shows_iff, (collapse_collapsed _ query).shows_iff, buckets]
  · exact same labels value

end Plan

/-! Two runs of one engine -/

namespace Engine

/-- Whether two runs of a plan come across its series and its groups in the same order. -/
structure RunsAlike (engine : Engine V) (plan : Plan V) (schedule later : Schedule) : Prop where
  arrivals : engine.settings.workers = 1 ∨ schedule.arrival = later.arrival
  listings : plan.Apart engine.store ∨ schedule.listing = later.listing

theorem query_eq_of_alike [Std.TransCmp (Scalar.compareTotal : V → V → Ordering)]
    [Std.LawfulEqCmp (Scalar.compareTotal : V → V → Ordering)] {engine : Engine V}
    {request : Request V} {plan : Plan V} (planned : engine.plan request = .ok plan)
    {schedule later : Schedule} (alike : engine.RunsAlike plan schedule later) :
    engine.query request schedule = engine.query request later := by
  have arrived : schedule.arrive engine.settings.workers (plan.select engine.store) =
      later.arrive engine.settings.workers (plan.select engine.store) :=
    Schedule.arrive_eq alike.arrivals _
  have executed (counters : Counters) :
      engine.execute counters plan schedule = engine.execute counters plan later := by
    simp only [execute, Plan.fetch_eq_select]
    cases common : Plan.commonType plan.metric (plan.select engine.store) with
    | error fault => rfl
    | ok found =>
        cases found with
        | none => rfl
        | some type =>
            have answered : plan.answer type
                (schedule.arrive engine.settings.workers (plan.select engine.store))
                schedule.listing =
              plan.answer type (later.arrive engine.settings.workers (plan.select engine.store))
                later.listing := by
              rcases alike.listings with apart | same
              · have uniform :=
                  Plan.types_select_iff.mp (Plan.commonType_eq_some_iff.mp common).2
                rw [arrived, arrive_select]
                exact Plan.answer_relist (apart.groups uniform arrivals_perm) _ _
              · rw [arrived, same]
            simp only [answered]
  simp only [query, planned, executed]

end Engine

end SeriesQuery
