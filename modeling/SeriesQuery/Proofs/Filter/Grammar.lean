import SeriesQuery.Proofs.Filter.TestReading
/-!
The grammar of filters on concatenations, with what the reader of each level comes to. What a text
spells depends on the text after it only through its context.
-/
namespace SeriesQuery.Filter

/-! Connectives -/

/-- The connectives as a symbol and as a word. -/
def connectives : List (List Char × List Char) := [(['&', '&'], wordAnd), (['|', '|'], wordOr)]

/-- A connective with the blanks before it, the context it makes, and what follows it. -/
inductive Joins (symbol word : List Char) : Context → List Char → List Char → Prop where
  | symbol {blanks next : List Char} (blank : Spaces blanks) :
      Joins symbol word .mark (blanks ++ symbol) next
  | word {blanks written next : List Char} (blank : Spaces blanks) (apart : blanks ≠ [])
      (spelt : Spelt word written) (ends : startsWith isKeyChar next = false) :
      Joins symbol word .word (blanks ++ written) next
  | tight {written next : List Char} (spelt : Spelt word written)
      (ends : startsWith isKeyChar next = false) : Joins symbol word .tight written next

section Connectives

variable {symbol word : List Char} (known : (symbol, word) ∈ connectives)

theorem Joins.of_starts {context : Context} {text next other : List Char}
    (joins : Joins symbol word context text next)
    (same : startsWith isKeyChar other = startsWith isKeyChar next) :
    Joins symbol word context text other := by
  cases joins with
  | symbol blank => exact .symbol blank
  | word blank apart spelt ends => exact .word blank apart spelt (same.trans ends)
  | tight spelt ends => exact .tight spelt (same.trans ends)

theorem joins_of_afterConnective {text next : List Char}
    (read : afterConnective symbol word text = some next) :
    ∃ context joint left, text = joint ++ left ∧ next = skipSpaces left ∧
      Joins symbol word context joint left := by
  rcases exists_spaces text with ⟨spaces, blank, split⟩
  rw [afterConnective] at read
  split at read
  · rename_i left marked
    cases read
    rw [afterMark_eq_some_iff.mp marked] at split
    exact ⟨.mark, spaces ++ symbol, left, by rw [split, List.append_assoc], rfl, .symbol blank⟩
  · rcases Option.map_eq_some_iff.mp read with ⟨left, keyword, rfl⟩
    rcases afterKeyword_eq_some_iff.mp keyword with ⟨written, spelt, ends, found⟩
    rw [found] at split
    by_cases apart : spaces = []
    · subst apart
      exact ⟨.tight, written, left, split, rfl, .tight spelt ends⟩
    · exact ⟨.word, spaces ++ written, left, by rw [split, List.append_assoc], rfl,
        .word blank apart spelt ends⟩

include known

theorem connective_symbol : startsWith goesOn symbol = false ∧ startsWith isSpace symbol = false ∧
    symbol ≠ [] := by
  have all : ∀ entry ∈ connectives, startsWith goesOn entry.1 = false ∧
      startsWith isSpace entry.1 = false ∧ entry.1 ≠ [] := by decide
  exact all _ known

theorem connective_word : word ∈ keywords ∧ word ≠ [] := by
  have all : ∀ entry ∈ connectives, entry.2 ∈ keywords ∧ entry.2 ≠ [] := by decide
  exact all _ known

theorem connective_opensWord {written : List Char} (spelt : Spelt word written) (rest : List Char) :
    startsWith opensWord (written ++ rest) = true := by
  have opened := spelt.opens (connective_word known).2
  simp only [connectives, List.mem_cons, Prod.mk.injEq, List.not_mem_nil, or_false] at known
  rcases known with ⟨-, rfl⟩ | ⟨-, rfl⟩
  · exact startsWith_of_imp (fun c first => by simp [opensWord, first]) (opened wordAnd rest)
  · exact startsWith_of_imp (fun c first => by simp [opensWord, first]) (opened wordOr rest)

theorem afterConnective_word {spaces written next : List Char} (blank : Spaces spaces)
    (spelt : Spelt word written) (ends : startsWith isKeyChar next = false) :
    afterConnective symbol word (spaces ++ (written ++ next)) = some (skipSpaces next) := by
  rcases connective_word known with ⟨capital, letters⟩
  rcases connective_symbol known with ⟨inert, -, nonempty⟩
  have bare := spelt.bare capital letters next
  have noSymbol : afterMark symbol (written ++ next) = none := by
    apply Option.eq_none_iff_forall_ne_some.mpr
    intro left marked
    rw [afterMark_eq_some_iff.mp marked, startsWith_append nonempty] at bare
    rw [startsWith_mono (fun c bare => by simp [goesOn, bare]) inert] at bare
    cases bare
  rw [afterConnective, skipSpaces_solid blank (not_space_of_bare bare),
    noSymbol, afterKeyword_eq_some_iff.mpr ⟨written, spelt, ends, rfl⟩]
  rfl

theorem Joins.ne_nil {context : Context} {text next : List Char}
    (joins : Joins symbol word context text next) : text ≠ [] := by
  cases joins with
  | symbol blank => simp [(connective_symbol known).2.2]
  | word blank apart spelt ends => simp [apart]
  | tight spelt ends => exact spelt.ne_nil (connective_word known).2

theorem Joins.before {context : Context} {text next : List Char}
    (joins : Joins symbol word context text next) (rest : List Char) :
    context.Before (text ++ rest) := by
  rcases connective_symbol known with ⟨inert, solid, nonempty⟩
  cases joins with
  | symbol blank =>
      have starts : startsWith goesOn (symbol ++ rest) = false :=
        (startsWith_append nonempty rest).trans inert
      have stays : startsWith isSpace (symbol ++ rest) = false :=
        (startsWith_append nonempty rest).trans solid
      rw [Context.Before, List.append_assoc, skipSpaces_solid blank stays]
      exact starts
  | word blank apart spelt ends =>
      rcases connective_word known with ⟨capital, letters⟩
      have bare := spelt.bare capital letters rest
      rw [List.append_assoc]
      refine ⟨startsWith_of_all apart blank _, ?_⟩
      rw [skipSpaces_solid blank (not_space_of_bare bare)]
      exact connective_opensWord known spelt rest
  | tight spelt ends => exact connective_opensWord known spelt rest

theorem afterConnective_joins {context : Context} {text next : List Char}
    (joins : Joins symbol word context text next) :
    afterConnective symbol word (text ++ next) = some (skipSpaces next) := by
  cases joins with
  | symbol blank =>
      rcases connective_symbol known with ⟨-, solid, nonempty⟩
      have stays : startsWith isSpace (symbol ++ next) = false :=
        (startsWith_append nonempty next).trans solid
      rw [afterConnective, List.append_assoc, skipSpaces_solid blank stays,
        afterMark_eq_some_iff.mpr rfl]
  | word blank apart spelt ends =>
      rw [List.append_assoc]
      exact afterConnective_word known blank spelt ends
  | tight spelt ends =>
      exact @afterConnective_word symbol word known [] text next spaces_nil spelt ends

theorem afterConnective_unopened {text : List Char}
    (noSymbol : startsWith (fun c => symbol.head? == some c) (skipSpaces text) = false)
    (noWord : startsWith (opens word) (skipSpaces text) = false) :
    afterConnective symbol word text = none := by
  rcases connective_symbol known with ⟨-, -, nonempty⟩
  rcases connective_word known with ⟨-, letters⟩
  have noMark : afterMark symbol (skipSpaces text) = none := by
    apply Option.eq_none_iff_forall_ne_some.mpr
    intro left marked
    rw [afterMark_eq_some_iff.mp marked] at noSymbol
    cases symbol with
    | nil => exact nonempty rfl
    | cons c tail => simp at noSymbol
  rw [afterConnective, noMark, afterKeyword_unopened letters noWord]
  rfl

end Connectives

theorem afterAnd_joinsOr {context : Context} {text next : List Char}
    (joins : Joins ['|', '|'] wordOr context text next) : afterAnd (text ++ next) = none := by
  have known : (['&', '&'], wordAnd) ∈ connectives := by decide
  have word : ∀ {spaces written : List Char}, Spaces spaces → Spelt wordOr written →
      afterAnd (spaces ++ (written ++ next)) = none := by
    intro spaces written blank spelt
    have bare := spelt.bare (by decide) (by decide) next
    have skipped : skipSpaces (spaces ++ (written ++ next)) = written ++ next := by
      rw [skipSpaces_solid blank (not_space_of_bare bare)]
    apply afterConnective_unopened known
    · rw [skipped]
      apply startsWith_mono _ (not_quote_of_bare bare (by decide : '&' ∈ marks))
      intro c same
      simp only [List.head?_cons, beq_iff_eq, Option.some.injEq] at same
      simp [← same]
    · rw [skipped]
      exact spelt.opens (by decide) wordAnd next
  cases joins with
  | symbol blank =>
      have skipped : ∀ spaces, Spaces spaces →
          skipSpaces (spaces ++ (['|', '|'] ++ next)) = ['|', '|'] ++ next := by
        intro spaces blank
        rw [skipSpaces_solid blank rfl]
      rw [List.append_assoc]
      apply afterConnective_unopened known <;> rw [skipped _ blank] <;> rfl
  | word blank apart spelt ends =>
      rw [List.append_assoc]
      exact word blank spelt
  | tight spelt ends => exact @word [] text spaces_nil spelt

/-- Nothing but a closing parenthesis follows. -/
def Closing (rest : List Char) : Prop := startsWith (· ≠ ')') (skipSpaces rest) = false

theorem Closing.of_parenthesis {blanks : List Char} (blank : Spaces blanks) (rest : List Char) :
    Closing (blanks ++ ')' :: rest) := by
  rw [Closing, skipSpaces_solid blank rfl]
  rfl

namespace Closing

variable {rest : List Char} (closing : Closing rest)

include closing

theorem afterConnective {symbol word : List Char} (known : (symbol, word) ∈ connectives) :
    afterConnective symbol word rest = none := by
  have noParenthesis : ∀ entry ∈ connectives,
      entry.1.head? ≠ some ')' ∧ opens entry.2 ')' = false := by decide
  rcases noParenthesis _ known with ⟨noSymbol, noWord⟩
  apply afterConnective_unopened known
  · apply startsWith_mono _ closing
    intro c same
    simp only [beq_iff_eq] at same
    rw [decide_eq_true_eq]
    intro same
    subst same
    exact noSymbol same
  · apply startsWith_mono _ closing
    intro c opened
    rw [decide_eq_true_eq]
    intro same
    subst same
    rw [noWord] at opened
    cases opened

theorem afterAnd : afterAnd rest = none := closing.afterConnective (by decide)

theorem afterOr : afterOr rest = none := closing.afterConnective (by decide)

theorem before : Context.mark.Before rest := by
  apply startsWith_mono _ closing
  intro c opened
  rw [decide_eq_true_eq]
  intro same
  subst same
  cases opened

end Closing

/-! The grammar -/

inductive Level where
  | term
  | conjunction
  | disjunction

/-- In front of the context the text spells the expression. -/
inductive Spells : Level → Context → List Char → Expr → Prop where
  | spaced {context : Context} {blanks text : List Char} {expr : Expr} (blank : Spaces blanks)
      (term : Spells .term context text expr) : Spells .term context (blanks ++ text) expr
  | negation {context : Context} {word text : List Char} {expr : Expr}
      (spelt : Spelt wordNot word) (ends : startsWith isKeyChar text = false)
      (term : Spells .term context text expr) : Spells .term context (word ++ text) (.not expr)
  | group {context : Context} {text blanks : List Char} {expr : Expr}
      (inner : Spells .disjunction .mark text expr) (blank : Spaces blanks) :
      Spells .term context ('(' :: (text ++ (blanks ++ [')']))) (.group expr)
  | predicate {context : Context} {key blanks text : List Char} {expr : Expr} (nonempty : key ≠ [])
      (passed : ∀ c ∈ key, isKeyChar c = true) (blank : Spaces blanks)
      (ends : startsWith isKeyChar (blanks ++ text) = false) (said : Says context key text expr) :
      Spells .term context (key ++ (blanks ++ text)) expr
  | term {context : Context} {text : List Char} {expr : Expr}
      (term : Spells .term context text expr) : Spells .conjunction context text expr
  | and {inner context : Context} {first joint second : List Char} {left right : Expr}
      (conjunction : Spells .conjunction inner first left)
      (joins : Joins ['&', '&'] wordAnd inner joint second)
      (term : Spells .term context second right) :
      Spells .conjunction context (first ++ (joint ++ second)) (.and left right)
  | conjunction {context : Context} {text : List Char} {expr : Expr}
      (conjunction : Spells .conjunction context text expr) :
      Spells .disjunction context text expr
  | or {inner context : Context} {first joint second : List Char} {left right : Expr}
      (disjunction : Spells .disjunction inner first left)
      (joins : Joins ['|', '|'] wordOr inner joint second)
      (conjunction : Spells .conjunction context second right) :
      Spells .disjunction context (first ++ (joint ++ second)) (.or left right)

theorem Spells.ne_nil {level : Level} {context : Context} {text : List Char} {expr : Expr}
    (spells : Spells level context text expr) : text ≠ [] := by
  induction spells with
  | spaced _ _ ih => simp [ih]
  | negation _ _ _ ih => simp [ih]
  | group => simp
  | predicate nonempty => simp [nonempty]
  | term _ ih => exact ih
  | and _ _ _ ih => simp [ih]
  | conjunction _ ih => exact ih
  | or _ _ _ ih => simp [ih]

end SeriesQuery.Filter
