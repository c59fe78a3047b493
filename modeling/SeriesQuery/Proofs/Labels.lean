import SeriesQuery.Grouping
import SeriesQuery.Proofs.SortedMap
/-!
Label sets of groups. Projection keeps the labels it names, and the labels of a group of buckets
stand for exactly two things: the projection and the text of the bound, if there is one.
-/
namespace SeriesQuery.Labels

open SortedMap

theorem get?_foldl_project (labels kept : Labels) (names : List String) (name : String) :
    (names.foldl (fun kept name => match labels.get? name with
      | some value => kept.insert name value
      | none => kept) kept).get? name =
    if name ∈ names then (labels.get? name).or (kept.get? name) else kept.get? name := by
  induction names generalizing kept with
  | nil => simp
  | cons first rest ih =>
      rw [List.foldl_cons, ih]
      cases held : labels.get? first with
      | none =>
          by_cases same : name = first
          · subst same
            simp [held]
          · simp [same]
      | some value =>
          simp only [get?_insert]
          by_cases same : name = first
          · subst same
            simp [held]
          · simp [same]

theorem get?_project (labels : Labels) (names : List String) (name : String) :
    (labels.project names).get? name = if name ∈ names then labels.get? name else none := by
  refine (get?_foldl_project labels ∅ names name).trans ?_
  simp

theorem groupKey_false (labels : Labels) (names : List String) :
    labels.groupKey names false = labels.project names := by
  simp [groupKey]

/-- Labels with a bound, or as they are if there is no bound to add. -/
def withBound (labels : Labels) : Option String → Labels
  | some bound => labels.insert boundLabel bound
  | none => labels

theorem groupKey_true (labels : Labels) (names : List String) :
    labels.groupKey names true = (labels.project names).withBound (labels.get? boundLabel) := by
  cases held : labels.get? boundLabel <;> simp [groupKey, withBound, held]

theorem get?_groupKey (labels : Labels) (names : List String) (keepBound : Bool) (name : String) :
    (labels.groupKey names keepBound).get? name =
      if (keepBound = true ∧ name = boundLabel) ∨ name ∈ names then labels.get? name else none := by
  cases keepBound with
  | false => simp [groupKey_false, get?_project]
  | true =>
      rw [groupKey_true]
      by_cases bound : name = boundLabel
      · subst bound
        cases held : labels.get? boundLabel <;> simp [withBound, get?_insert, get?_project, held]
      · cases held : labels.get? boundLabel <;> simp [withBound, get?_insert, get?_project, bound]

/-- The labels of a group are those of the finer group, grouped again. -/
theorem groupKey_groupKey {names finer : List String} (covers : ∀ name ∈ names, name ∈ finer)
    (labels : Labels) (keepBound : Bool) :
    (labels.groupKey finer keepBound).groupKey names keepBound =
      labels.groupKey names keepBound := by
  apply ext_get?
  intro name
  rw [get?_groupKey, get?_groupKey, get?_groupKey]
  by_cases kept : (keepBound = true ∧ name = boundLabel) ∨ name ∈ names
  · rw [if_pos kept, if_pos kept, if_pos (kept.imp_right (covers name))]
  · rw [if_neg kept, if_neg kept]

/-- Series are in one group of buckets just when they agree on the projection and on the bound. -/
theorem groupKey_true_eq_iff {a b : Labels} {names : List String} :
    a.groupKey names true = b.groupKey names true ↔
      a.project names = b.project names ∧ a.get? boundLabel = b.get? boundLabel := by
  constructor
  · intro same
    have agree (name : String) := congrArg (fun labels : Labels => labels.get? name) same
    simp only [get?_groupKey, true_and] at agree
    refine ⟨ext_get? fun name => ?_, by simpa using agree boundLabel⟩
    rw [get?_project, get?_project]
    by_cases named : name ∈ names
    · simpa [named] using agree name
    · simp [named]
  · intro parts
    rcases parts with ⟨projection, bound⟩
    rw [groupKey_true, groupKey_true, projection, bound]

end SeriesQuery.Labels
