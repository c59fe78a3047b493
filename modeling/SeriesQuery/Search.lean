/-!
Searches by halving. Where a test holds of the entries up to some place and of none from there on,
the search finds that place.
-/
namespace SeriesQuery

/--
The position after the entries for which the test holds, found by halving. `size` entries from
`base` on are left to search; where the test is not settled by order, the entries tested decide.
-/
def cutBetween (test : Nat → Bool) (base size : Nat) : Nat :=
  if size ≤ 1 then if test base then base + 1 else base
  else
    let half := size / 2
    if test (base + half) then cutBetween test (base + half) (size - half)
    else cutBetween test base (size - half)
termination_by size

def cutPosition {α : Type} (test : α → Bool) (list : List α) : Nat :=
  if list.isEmpty then 0 else cutBetween (fun position => list[position]?.any test) 0 list.length

/-- Where an entry stands in an ordered list, or where it belongs. -/
inductive Place where
  | taken (position : Nat)
  | free (position : Nat)

/-- Whether a place is one of a list of this size. -/
def Place.Within (place : Place) (size : Nat) : Prop :=
  match place with
  | .taken position => position < size
  | .free position => position ≤ size

/-- The place of an entry among others, which are ordered as they compare to it. -/
def placeOf {α : Type} (order : α → Ordering) (list : List α) : Place :=
  match cutPosition (fun entry => order entry != .gt) list with
  | 0 => .free 0
  | last + 1 =>
    if list[last]?.any fun entry => order entry == .eq then .taken last else .free (last + 1)

/-- Puts an entry at a place, instead of the one that stands there. -/
def putAt {α : Type} (place : Place) (entry : α) (list : List α) : List α :=
  match place with
  | .taken position => list.set position entry
  | .free position => list.insertIdx position entry

/-- The search keeps the place between its ends, whichever half it goes on with. -/
theorem cutBetween_eq {test : Nat → Bool} {cut base size : Nat} (filled : 0 < size)
    (low : base ≤ cut) (high : cut ≤ base + size)
    (settled : ∀ position, base ≤ position → position < base + size →
      (test position = true ↔ position < cut)) :
    cutBetween test base size = cut := by
  induction base, size using cutBetween.induct test with
  | case1 base size single held =>
      have := (settled base (by omega) (by omega)).mp held
      rw [cutBetween, if_pos single, if_pos held]
      omega
  | case2 base size single failed =>
      have := Nat.not_lt.mp fun below => failed ((settled base (by omega) (by omega)).mpr below)
      rw [cutBetween, if_pos single, if_neg failed]
      omega
  | case3 base size several half held ih =>
      have := (settled (base + half) (by omega) (by omega)).mp held
      rw [cutBetween, if_neg several, if_pos held]
      apply ih (by omega) (by omega) (by omega)
      intro position after before
      exact settled position (by omega) (by omega)
  | case4 base size several half failed ih =>
      have halved : half = size / 2 := rfl
      have := Nat.not_lt.mp fun below =>
        failed ((settled (base + half) (by omega) (by omega)).mpr below)
      rw [cutBetween, if_neg several, if_neg failed]
      apply ih (by omega) (by omega) (by omega)
      intro position after before
      exact settled position (by omega) (by omega)

theorem cutPosition_append {α : Type} {test : α → Bool} {below above : List α}
    (holds : ∀ entry ∈ below, test entry = true) (fails : ∀ entry ∈ above, test entry = false) :
    cutPosition test (below ++ above) = below.length := by
  unfold cutPosition
  split
  · rename_i nothing
    rw [List.isEmpty_iff, List.append_eq_nil_iff] at nothing
    rw [nothing.1]
    rfl
  · rename_i filled
    rw [List.isEmpty_iff] at filled
    apply cutBetween_eq (List.length_pos_iff.mpr filled) (Nat.zero_le _)
    · rw [List.length_append]
      omega
    · intro position _ inside
      rw [List.getElem?_eq_getElem (by omega), Option.any_some]
      by_cases early : position < below.length
      · rw [List.getElem_append_left early, holds _ (List.getElem_mem early)]
        exact ⟨fun _ => early, fun _ => rfl⟩
      · rw [List.getElem_append_right (by omega), fails _ (List.getElem_mem _)]
        exact ⟨nofun, fun below => absurd below early⟩

section Place

variable {α : Type} {order : α → Ordering} {early late : List α}
  (below : ∀ entry ∈ early, order entry = .lt) (above : ∀ entry ∈ late, order entry = .gt)

include below above

theorem placeOf_taken {entry : α} (same : order entry = .eq) :
    placeOf order (early ++ entry :: late) = .taken early.length := by
  have cut : cutPosition (fun entry => order entry != .gt) ((early ++ [entry]) ++ late) =
      (early ++ [entry]).length := by
    refine cutPosition_append (fun other member => ?_) fun other member => ?_
    · rcases List.mem_append.mp member with member | member
      · rw [below other member]
        rfl
      · rw [List.mem_singleton.mp member, same]
        rfl
    · rw [above other member]
      rfl
  rw [List.append_assoc, List.singleton_append, List.length_append] at cut
  simp [placeOf, cut, same]

theorem placeOf_free : placeOf order (early ++ late) = .free early.length := by
  have cut : cutPosition (fun entry => order entry != .gt) (early ++ late) = early.length := by
    refine cutPosition_append (fun other member => ?_) fun other member => ?_
    · rw [below other member]
      rfl
    · rw [above other member]
      rfl
  rw [placeOf, cut]
  cases length : early.length with
  | zero => rfl
  | succ last =>
      have inside : last < early.length := by omega
      have before : order early[last] = .lt := below _ (List.getElem_mem inside)
      simp [List.getElem?_append_left inside, inside, before]

end Place

theorem putAt_taken {α : Type} (early late : List α) (old entry : α) :
    putAt (.taken early.length) entry (early ++ old :: late) = early ++ entry :: late := by
  simp [putAt]

theorem putAt_free {α : Type} (early late : List α) (entry : α) :
    putAt (.free early.length) entry (early ++ late) = early ++ entry :: late := by
  rw [putAt]
  induction early with
  | nil => rfl
  | cons first rest ih => exact congrArg (first :: ·) ih

/-- A test that has failed never holds again: the entries that pass it come first. -/
theorem exists_parts {α : Type} {test : α → Bool} {list : List α}
    (settled : list.Pairwise fun a b => test b = true → test a = true) :
    ∃ below above, list = below ++ above ∧ (∀ entry ∈ below, test entry = true) ∧
      ∀ entry ∈ above, test entry = false := by
  induction list with
  | nil => exact ⟨[], [], rfl, List.forall_mem_nil _, List.forall_mem_nil _⟩
  | cons first rest ih =>
      rcases List.pairwise_cons.mp settled with ⟨later, tail⟩
      by_cases passes : test first = true
      · rcases ih tail with ⟨below, above, rfl, holds, fails⟩
        exact ⟨first :: below, above, rfl, List.forall_mem_cons.mpr ⟨passes, holds⟩, fails⟩
      · refine ⟨[], first :: rest, rfl, List.forall_mem_nil _, ?_⟩
        refine List.forall_mem_cons.mpr ⟨Bool.not_eq_true _ ▸ passes, fun entry member => ?_⟩
        exact Bool.not_eq_true _ ▸ fun held => passes (later entry member held)

end SeriesQuery
