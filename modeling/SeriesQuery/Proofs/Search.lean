import SeriesQuery.Search
/-! What searches by halving find, and the entries between the places that two of them find. -/
namespace SeriesQuery

/-- The search ends within what it searches, whatever it tests. -/
theorem cutBetween_le (test : Nat → Bool) (base : Nat) {size : Nat} (filled : 0 < size) :
    cutBetween test base size ≤ base + size := by
  induction base, size using cutBetween.induct test with
  | case1 base size single held =>
      rw [cutBetween, if_pos single, if_pos held]
      omega
  | case2 base size single failed =>
      rw [cutBetween, if_pos single, if_neg failed]
      omega
  | case3 base size several half held ih =>
      have halved : half = size / 2 := rfl
      rw [cutBetween, if_neg several, if_pos held]
      exact Nat.le_trans (ih (by omega)) (by omega)
  | case4 base size several half failed ih =>
      have halved : half = size / 2 := rfl
      rw [cutBetween, if_neg several, if_neg failed]
      exact Nat.le_trans (ih (by omega)) (by omega)

theorem cutPosition_le_length {α : Type} (test : α → Bool) (list : List α) :
    cutPosition test list ≤ list.length := by
  unfold cutPosition
  split
  · exact Nat.zero_le _
  · rename_i filled
    rw [List.isEmpty_iff] at filled
    have inside := cutBetween_le (fun position => list[position]?.any test) 0
      (List.length_pos_iff.mpr filled)
    omega

theorem cutPosition_map {α β : Type} (test : β → Bool) (change : α → β) (list : List α) :
    cutPosition test (list.map change) = cutPosition (fun entry => test (change entry)) list := by
  simp only [cutPosition, List.isEmpty_map, List.getElem?_map, List.length_map, Option.any_map]

/-- A test that fails somewhere, and everywhere after that, parts a list at its first failure. -/
theorem exists_cut {α : Type} {test : α → Bool} {list : List α}
    (settled : list.Pairwise fun a b => test b = true → test a = true)
    (fails : ∃ entry ∈ list, test entry = false) :
    ∃ below first above, list = below ++ first :: above ∧ (∀ entry ∈ below, test entry = true) ∧
      test first = false ∧ cutPosition test list = below.length := by
  rcases exists_parts settled with ⟨below, above, rfl, holds, failing⟩
  cases above with
  | nil =>
      rcases fails with ⟨entry, member, failed⟩
      rw [List.append_nil] at member
      rw [holds entry member] at failed
      cases failed
  | cons first above =>
      exact ⟨below, first, above, rfl, holds, failing first List.mem_cons_self,
        cutPosition_append holds failing⟩

section Parts

variable {α : Type} {list : List α}

/-- Where a test that has failed never holds again, the search takes what passes it. -/
theorem take_cutPosition {test : α → Bool}
    (settled : list.Pairwise fun a b => test b = true → test a = true) :
    list.take (cutPosition test list) = list.filter test := by
  rcases exists_parts settled with ⟨below, above, rfl, holds, fails⟩
  have nothing : above.filter test = [] := by
    simpa using fails
  rw [cutPosition_append holds fails, List.take_left, List.filter_append,
    List.filter_eq_self.mpr holds, nothing, List.append_nil]

/-- Two searches leave between them what fails the first test and passes the second. -/
theorem extract_cutPosition {low high : α → Bool}
    (low' : list.Pairwise fun a b => low b = true → low a = true)
    (high' : list.Pairwise fun a b => high b = true → high a = true) :
    list.extract (cutPosition low list) (max (cutPosition high list) (cutPosition low list)) =
      list.filter fun entry => !low entry && high entry := by
  rcases exists_parts low' with ⟨below, above, parts, lower, upper⟩
  rcases exists_parts high' with ⟨before, after, parts', inside, outside⟩
  have first : cutPosition low list = below.length := parts ▸ cutPosition_append lower upper
  have last : cutPosition high list = before.length := parts' ▸ cutPosition_append inside outside
  have passed : below.filter (fun entry => !low entry && high entry) = [] :=
    List.filter_eq_nil_iff.mpr fun entry member => by simp [lower entry member]
  have missed : after.filter (fun entry => !low entry && high entry) = [] :=
    List.filter_eq_nil_iff.mpr fun entry member => by simp [outside entry member]
  rw [first, last]
  rcases List.append_eq_append_iff.mp (parts.symm.trans parts') with
    ⟨between, rfl, rfl⟩ | ⟨between, rfl, rfl⟩
  · have kept : between.filter (fun entry => !low entry && high entry) = between := by
      refine List.filter_eq_self.mpr fun entry member => ?_
      rw [upper entry (List.mem_append_left _ member),
        inside entry (List.mem_append_right _ member)]
      rfl
    rw [parts, List.filter_append, List.filter_append, passed, kept, missed]
    simp [List.extract_eq_take_drop]
  · rw [List.filter_append, List.append_eq_nil_iff] at missed
    rw [parts, List.filter_append, passed, missed.2]
    simp [List.extract_eq_take_drop]

end Parts

/-- The search does not look at the first entry when it finds others that pass, and few after them
that do not. -/
theorem cutPosition_cons {α : Type} {test : α → Bool} {first : α} {below above : List α}
    (filled : below ≠ []) (few : above.length ≤ 1)
    (holds : ∀ entry ∈ below, test entry = true) (fails : ∀ entry ∈ above, test entry = false) :
    cutPosition test (first :: (below ++ above)) = below.length + 1 := by
  have some := List.length_pos_iff.mpr filled
  have settled (position : Nat) (after : 1 ≤ position)
      (inside : position < 1 + (below ++ above).length) :
      ((first :: (below ++ above))[position]?.any test = true ↔ position < below.length + 1) := by
    obtain ⟨place, rfl⟩ := Nat.exists_eq_add_of_le' after
    rw [List.getElem?_cons_succ, List.getElem?_eq_getElem (by omega), Option.any_some]
    by_cases early : place < below.length
    · rw [List.getElem_append_left early, holds _ (List.getElem_mem early)]
      exact iff_of_true rfl (by omega)
    · rw [List.getElem_append_right (by omega), fails _ (List.getElem_mem _)]
      exact iff_of_false nofun (by omega)
  have length : (first :: (below ++ above)).length = below.length + above.length + 1 := by
    rw [List.length_cons, List.length_append]
  have total : (below ++ above).length = below.length + above.length := List.length_append
  rw [cutPosition, if_neg (by simp), length, cutBetween, if_neg (by omega)]
  dsimp only
  rw [if_pos ((settled _ (by omega) (by omega)).mpr (by omega))]
  exact cutBetween_eq (by omega) (by omega) (by omega) fun position after inside =>
    settled position (by omega) (by omega)

end SeriesQuery
