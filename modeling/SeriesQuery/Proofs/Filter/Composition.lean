import SeriesQuery.Filter.Predicate
import SeriesQuery.Pattern.Reader
import SeriesQuery.Proofs.Filter.Progress
/-!
Filters of composed texts. Main statement: accepted texts in parentheses may be joined and negated,
and the result decides as the connectives say.
-/
namespace SeriesQuery.Filter

open Text

/-! Texts -/

variable {patterns : PatternEngine}

theorem ofText_eq_ok_iff {text : String} {filter : Filter} :
    ofText patterns text = .ok filter ↔
      ∃ expr, readExpr text = .ok expr ∧ compile patterns expr = .ok filter.predicate ∧
        filter.source = trim text := by
  rw [ofText]
  cases readExpr text with
  | error fault => simp [bind, Except.bind]
  | ok expr =>
      cases compiled : compile patterns expr with
      | error fault => simp [bind, Except.bind, compiled]
      | ok predicate =>
          rcases filter with ⟨known, source⟩
          simp [bind, Except.bind, compiled, pure, Except.pure, eq_comm]

theorem spells_of_ofText {text : String} {filter : Filter} (written : text ≠ "")
    (bare : trim text = text) (read : ofText patterns text = .ok filter) :
    ∃ expr, Spells .disjunction .mark text.toList expr ∧
      compile patterns expr = .ok filter.predicate := by
  rcases ofText_eq_ok_iff.mp read with ⟨expr, expression, compiled, -⟩
  have same : trimmed text.toList = text.toList := by
    rw [← String.toList_ofList (l := trimmed text.toList)]
    exact congrArg String.toList bare
  rcases readExpr_eq_ok_iff.mp expression with ⟨nothing, -⟩ | spells
  · rw [same, String.toList_eq_nil_iff] at nothing
    exact absurd nothing written
  · rw [same] at spells
    exact ⟨expr, spells, compiled⟩

/-- What a spelt text without blanks around it decides. -/
theorem ofText_of_spells {text : String} {expr : Expr} {predicate : Predicate}
    (solid : Solid text.toList) (spells : Spells .disjunction .mark text.toList expr)
    (compiled : compile patterns expr = .ok predicate) :
    ofText patterns text = .ok ⟨predicate, trim text⟩ :=
  ofText_eq_ok_iff.mpr ⟨expr, readExpr_of_spells solid spells, compiled, rfl⟩

/-! Groups -/

/-- The text between parentheses. -/
def parenthesized (text : List Char) : List Char := '(' :: (text ++ [')'])

theorem Spells.parenthesized {text : List Char} {expr : Expr}
    (spells : Spells .disjunction .mark text expr) (context : Context) :
    Spells .term context (parenthesized text) (.group expr) :=
  @Spells.group context text [] expr spells spaces_nil

theorem solid_parenthesized (text : List Char) : Solid (parenthesized text) :=
  @Solid.between ['('] [')'] ⟨by simp, rfl, rfl⟩ ⟨by simp, rfl, rfl⟩ text

theorem Spells.spacedGroup {text : List Char} {expr : Expr}
    (spells : Spells .disjunction .mark text expr) :
    Spells .term .mark ([' '] ++ Filter.parenthesized text) (.group expr) :=
  .spaced spaces_single (spells.parenthesized .mark)

/-- Two texts between parentheses and a word between them. -/
def joined (word first second : List Char) : List Char :=
  parenthesized first ++ (([' '] ++ word) ++ ([' '] ++ parenthesized second))

theorem solid_joined (word first second : List Char) : Solid (joined word first second) := by
  have solid := (solid_parenthesized first).between (solid_parenthesized second)
    ([' '] ++ word ++ [' '])
  rw [List.append_assoc] at solid
  exact solid

theorem joins_joined (symbol : List Char) {word : List Char} (capital : Spelt word word)
    (second : List Char) :
    Joins symbol word .word ([' '] ++ word) ([' '] ++ parenthesized second) :=
  .word spaces_single (by simp) capital rfl

section Composed

variable {first second : String} {left right : Expr} {p q : Predicate}
  (firstSpells : Spells .disjunction .mark first.toList left)
  (secondSpells : Spells .disjunction .mark second.toList right)
  (firstCompiled : compile patterns left = .ok p) (secondCompiled : compile patterns right = .ok q)

include firstSpells firstCompiled

theorem ofText_not :
    ofText patterns ("NOT (" ++ first ++ ")") = .ok ⟨.not p, trim ("NOT (" ++ first ++ ")")⟩ := by
  have shape : ("NOT (" ++ first ++ ")").toList =
      wordNot ++ ([' '] ++ parenthesized first.toList) := by
    simp [parenthesized, wordNot]
  apply @ofText_of_spells patterns _ (.not (.group left))
  · rw [shape]
    exact Solid.between ⟨by simp [wordNot], rfl, rfl⟩ (solid_parenthesized _) _
  · rw [shape]
    exact .conjunction (.term (.negation rfl rfl firstSpells.spacedGroup))
  · rw [compile, compile, firstCompiled]
    rfl

include secondSpells secondCompiled

theorem ofText_and :
    ofText patterns ("(" ++ first ++ ") AND (" ++ second ++ ")") =
      .ok ⟨.and p q, trim ("(" ++ first ++ ") AND (" ++ second ++ ")")⟩ := by
  have shape : ("(" ++ first ++ ") AND (" ++ second ++ ")").toList =
      joined wordAnd first.toList second.toList := by
    simp [joined, parenthesized, wordAnd]
  apply @ofText_of_spells patterns _ (.and (.group left) (.group right))
  · rw [shape]
    exact solid_joined _ _ _
  · have capital : Spelt wordAnd wordAnd := rfl
    rw [shape]
    exact .conjunction (.and (.term (firstSpells.parenthesized .word)) (joins_joined _ capital _)
      secondSpells.spacedGroup)
  · rw [compile, compile, compile, firstCompiled, secondCompiled]
    rfl

theorem ofText_or :
    ofText patterns ("(" ++ first ++ ") OR (" ++ second ++ ")") =
      .ok ⟨.or p q, trim ("(" ++ first ++ ") OR (" ++ second ++ ")")⟩ := by
  have shape : ("(" ++ first ++ ") OR (" ++ second ++ ")").toList =
      joined wordOr first.toList second.toList := by
    simp [joined, parenthesized, wordOr]
  apply @ofText_of_spells patterns _ (.or (.group left) (.group right))
  · rw [shape]
    exact solid_joined _ _ _
  · have capital : Spelt wordOr wordOr := rfl
    rw [shape]
    exact .or (.conjunction (.term (firstSpells.parenthesized .word))) (joins_joined _ capital _)
      (.term secondSpells.spacedGroup)
  · rw [compile, compile, compile, firstCompiled, secondCompiled]
    rfl

end Composed

/-- Accepted texts compose: in parentheses they may be joined by `AND` and `OR` and negated by
`NOT`, and the filters read decide so on every label set. -/
theorem ofText_composes {first second : String} {left right : Filter}
    (firstWritten : first ≠ "") (secondWritten : second ≠ "") (firstBare : trim first = first)
    (secondBare : trim second = second) (firstRead : ofText patterns first = .ok left)
    (secondRead : ofText patterns second = .ok right) :
    (∃ both, ofText patterns ("(" ++ first ++ ") AND (" ++ second ++ ")") = .ok both ∧
      ∀ labels, both.accepts labels = (left.accepts labels && right.accepts labels)) ∧
    (∃ either, ofText patterns ("(" ++ first ++ ") OR (" ++ second ++ ")") = .ok either ∧
      ∀ labels, either.accepts labels = (left.accepts labels || right.accepts labels)) ∧
    ∃ other, ofText patterns ("NOT (" ++ first ++ ")") = .ok other ∧
      ∀ labels, other.accepts labels = !left.accepts labels := by
  rcases spells_of_ofText firstWritten firstBare firstRead with ⟨leftExpr, leftSpells, leftCompiled⟩
  obtain ⟨rightExpr, rightSpells, rightCompiled⟩ :=
    spells_of_ofText secondWritten secondBare secondRead
  exact ⟨⟨_, ofText_and leftSpells rightSpells leftCompiled rightCompiled, fun _ => rfl⟩,
    ⟨_, ofText_or leftSpells rightSpells leftCompiled rightCompiled, fun _ => rfl⟩,
    ⟨_, ofText_not leftSpells leftCompiled, fun _ => rfl⟩⟩

/-- A key spelt like `NOT`. -/
def shadowed : String := "NOT contains contains"

/-- A list without a blank before it, and the negation of a pattern. -/
def listed : String := "x in(1,\"b c\")||not path=~'^/api'"

theorem ofText_composes_shadowed :
    ∃ left right, ofText Pattern.engine shadowed = .ok left ∧
      ofText Pattern.engine listed = .ok right ∧
      (∃ both, ofText Pattern.engine ("(" ++ shadowed ++ ") AND (" ++ listed ++ ")") = .ok both ∧
        ∀ labels, both.accepts labels = (left.accepts labels && right.accepts labels)) ∧
      (∃ either, ofText Pattern.engine ("(" ++ shadowed ++ ") OR (" ++ listed ++ ")") =
        .ok either ∧
        ∀ labels, either.accepts labels = (left.accepts labels || right.accepts labels)) ∧
      ∃ other, ofText Pattern.engine ("NOT (" ++ shadowed ++ ")") = .ok other ∧
        ∀ labels, other.accepts labels = !left.accepts labels := by
  have key : ofText Pattern.engine shadowed =
      .ok ⟨.contains "NOT" "contains", "NOT contains contains"⟩ := by
    cbv
  have read : readExpr listed = .ok (.or (.oneOf "x" [.number 1 "1", .word "b c"] false)
      (.not (.comparison "path" .search (.word "^/api")))) :=
    readExpr_of_readBy (by decide +kernel)
  obtain ⟨matcher, compiled⟩ : ∃ matcher, Pattern.engine.compile "^/api" = .ok matcher := by
    have accepted : (Pattern.engine.compile "^/api").isOk = true := by decide +kernel
    cases compiled : Pattern.engine.compile "^/api" with
    | ok matcher => exact ⟨matcher, rfl⟩
    | error reason =>
        rw [compiled] at accepted
        cases accepted
  have list : ofText Pattern.engine listed = .ok
      ⟨.or (.oneOf "x" [.number 1 "1", .word "b c"] false)
        (.not (.matchesPattern "path" matcher false)), trim listed⟩ := by
    refine ofText_eq_ok_iff.mpr ⟨_, read, ?_, rfl⟩
    simp only [compile, compileComparison, Literal.text, compiled]
    rfl
  exact ⟨_, _, key, list,
    ofText_composes (by decide) (by decide) (by decide) (by decide) key list⟩

end SeriesQuery.Filter
