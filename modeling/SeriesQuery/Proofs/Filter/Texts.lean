import SeriesQuery.Proofs.Filter.Spelling
/-!
Whole filter texts. Main statement: what a text without blanks around it is read as is what it
spells.
-/
namespace SeriesQuery.Filter

open Text

/-! Blanks -/

theorem isBlank_of_trimmed_eq_nil {text : List Char} (nothing : trimmed text = []) :
    ∀ c ∈ text, isBlank c = true := by
  rcases exists_run isBlank text with ⟨run, passed, split⟩
  rcases exists_run isBlank (trimStart text).reverse with ⟨last, passedLast, splitLast⟩
  have nothingLast : (trimStart text).reverse.dropWhile isBlank = [] := by
    simpa [trimmed, trimEnd] using nothing
  rw [nothingLast, List.append_nil] at splitLast
  intro c member
  rw [split] at member
  rcases List.mem_append.mp member with member | member
  · exact passed c member
  · apply passedLast c
    rw [← splitLast]
    exact List.mem_reverse.mpr member

theorem startsWith_reverse_trimmed (text : List Char) :
    startsWith isBlank (trimmed text).reverse = false := by
  rw [trimmed, trimEnd, List.reverse_reverse]
  exact startsWith_dropWhile isBlank _

/-- A text with no blank at either end. -/
structure Solid (text : List Char) : Prop where
  nonempty : text ≠ []
  starts : startsWith isBlank text = false
  ends : startsWith isBlank text.reverse = false

theorem Solid.trimmed_eq {text : List Char} (solid : Solid text) : trimmed text = text := by
  have kept : text.dropWhile isBlank = text := @dropWhile_run _ [] text (by simp) solid.starts
  have keptReverse : text.reverse.dropWhile isBlank = text.reverse :=
    @dropWhile_run _ [] text.reverse (by simp) solid.ends
  rw [trimmed, trimStart, kept, trimEnd, keptReverse, List.reverse_reverse]

theorem Solid.between {first last : List Char} (left : Solid first) (right : Solid last)
    (middle : List Char) : Solid (first ++ (middle ++ last)) := by
  constructor
  · simp [left.nonempty]
  · rw [startsWith_append left.nonempty]
    exact left.starts
  · have written : last.reverse ≠ [] := by simpa using right.nonempty
    rw [List.reverse_append, List.reverse_append, List.append_assoc, startsWith_append written]
    exact right.ends

theorem solid_of_bare {text : List Char} (bare : Bare text) (nonempty : text ≠ []) :
    Solid text := by
  have fails : ∀ part, (∀ c ∈ part, c ∈ text) → startsWith isBlank part = false := by
    intro part within
    apply startsWith_eq_false
    intro c tail same
    subst same
    cases blank : isBlank c with
    | false => rfl
    | true =>
        have inert := not_goesOn_of_isBlank blank
        simp [goesOn, bare c (within c List.mem_cons_self)] at inert
  exact ⟨nonempty, fails text fun _ member => member, fails text.reverse fun _ member =>
    List.mem_reverse.mp member⟩

theorem before_of_blank {rest : List Char} (blank : ∀ c ∈ rest, isBlank c = true) :
    Context.mark.Before rest := by
  apply startsWith_eq_false
  intro c tail split
  rcases exists_spaces rest with ⟨spaces, -, whole⟩
  apply not_goesOn_of_isBlank
  apply blank
  rw [whole, split]
  simp

theorem readExpr_eq_ok_iff_outcome {text : String} {expr : Expr} :
    readExpr text = .ok expr ↔
      trimmed text.toList = [] ∧ expr = .all ∨
        trimmed text.toList ≠ [] ∧ ∃ rest,
          (readDisjunction (trimmed text.toList)).outcome = .found expr rest ∧
          trimmed rest = [] := by
  rw [readExpr]
  split
  · rename_i nothing
    simp only [nothing, true_and, ne_eq, not_true_eq_false, false_and, or_false, Except.ok.injEq]
    exact eq_comm
  · rename_i bare written
    have nonempty : trimmed text.toList ≠ [] := written
    cases readDisjunction (trimmed text.toList) with
    | found value rest shorter =>
        simp only [Reading.outcome_found, nonempty, Outcome.found.injEq, false_and, false_or,
          ne_eq, not_false_eq_true, true_and]
        split
        · rename_i nothing
          constructor
          · rintro ⟨⟩
            exact ⟨rest, ⟨rfl, rfl⟩, nothing⟩
          · intro parts
            rcases parts with ⟨-, ⟨rfl, rfl⟩, -⟩
            rfl
        · rename_i something
          constructor
          · intro fault
            cases fault
          · intro parts
            rcases parts with ⟨left, ⟨rfl, rfl⟩, nothing⟩
            exact absurd nothing something
    | refused sought rest => simp [nonempty]
    | aborted rest => simp [nonempty]

/-- What is accepted is exactly what the grammar spells. -/
theorem readExpr_eq_ok_iff {text : String} {expr : Expr} :
    readExpr text = .ok expr ↔
      trimmed text.toList = [] ∧ expr = .all ∨
        Spells .disjunction .mark (trimmed text.toList) expr := by
  rw [readExpr_eq_ok_iff_outcome]
  constructor
  · intro either
    rcases either with nothing | ⟨-, rest, read, nothing⟩
    · exact .inl nothing
    · have blank := isBlank_of_trimmed_eq_nil nothing
      obtain ⟨written, split, spells⟩ :=
        exists_spells_of_readDisjunction read (before_of_blank blank)
      -- Blanks left over would stand at the end of a trimmed text.
      have last := startsWith_reverse_trimmed text.toList
      rw [split, List.reverse_append] at last
      have done : rest = [] := by
        apply Decidable.byContradiction
        intro left
        rw [startsWith_of_all (by simpa using left) (by simpa using blank)] at last
        cases last
      rw [split, done, List.append_nil]
      exact .inr spells
  · intro either
    rcases either with nothing | spells
    · exact .inl nothing
    · have read := @outcome_readDisjunction_of_spells _ [] expr spells rfl
      rw [List.append_nil] at read
      exact .inr ⟨spells.ne_nil, [], read, rfl⟩

theorem readExpr_of_spells {text : String} {expr : Expr} (solid : Solid text.toList)
    (spells : Spells .disjunction .mark text.toList expr) : readExpr text = .ok expr := by
  apply readExpr_eq_ok_iff.mpr
  rw [solid.trimmed_eq]
  exact .inr spells

/-- A missing exponent digit ends the whole reading. -/
theorem readExpr_of_aborted {text : String} (solid : Solid text.toList)
    (aborted : (readDisjunction text.toList).outcome = .aborted) :
    ∃ rest, readExpr text = .error (.unreadable text .digit rest) := by
  rw [readExpr, solid.trimmed_eq]
  split
  · rename_i nothing
    exact absurd nothing solid.nonempty
  · cases reading : readDisjunction text.toList with
    | found value rest shorter => simp [reading] at aborted
    | refused sought rest => simp [reading] at aborted
    | aborted rest =>
        refine ⟨rest, ?_⟩
        simp only
        rw [String.ofList_toList]

end SeriesQuery.Filter
