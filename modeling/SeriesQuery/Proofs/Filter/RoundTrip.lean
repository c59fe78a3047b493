import SeriesQuery.Proofs.Filter.Progress
/-!
Rendering an expression and reading it back. Main statement: what was read once, is read again from
its rendering, if no quoted text in it holds a double quote.
-/
namespace SeriesQuery.Filter

open Text

namespace Expr

/-- The literals of an expression, from left to right. -/
def literals : Expr → List Literal
  | comparison _ _ value => [value]
  | oneOf _ values _ => values
  | present _ _ => []
  | not inner => inner.literals
  | and left right => left.literals ++ right.literals
  | or left right => left.literals ++ right.literals
  | group inner => inner.literals
  | all => []

end Expr

/-- A text that double quotes may enclose; numbers are not enclosed. -/
def Literal.Enclosable : Literal → Prop
  | word content => '"' ∉ content.toList
  | number _ _ => True

/-! Literals -/

theorem Quotes.rendered {content : String} (enclosable : '"' ∉ content.toList) :
    Quotes (Literal.word content).render.toList (.word content) := by
  have shape : (Literal.word content).render.toList = '"' :: (content.toList ++ ['"']) := by
    simp [Literal.render]
  have quotes := Quotes.intro (.inl rfl) enclosable
  rw [String.ofList_toList] at quotes
  rw [shape]
  exact quotes

theorem Written.rendered {context other : Context} {written : List Char} {value : Literal}
    (literal : Written context written value) (enclosable : value.Enclosable)
    (free : other ≠ .tight) : Written other value.render.toList value := by
  rcases literal with ⟨-, -⟩ | ⟨⟨text⟩ | ⟨wordy⟩, -⟩
  · exact .inl (.rendered enclosable)
  · refine .inr ⟨?_, free⟩
    rw [Literal.render, String.toList_ofList]
    exact .number text
  · exact .inl (.rendered enclosable)

theorem Denotes.rendered {written : List Char} {value : Literal} (denotes : Denotes written value)
    (enclosable : value.Enclosable) : Denotes value.render.toList value := by
  have literal : Written .mark written value := denotes.imp id fun plain => ⟨plain, by decide⟩
  have rendered : Written .mark value.render.toList value := literal.rendered enclosable (by decide)
  exact rendered.denotes

theorem Items.rendered {written : List Char} {values : List Literal} (items : Items written values)
    (enclosable : ∀ value ∈ values, value.Enclosable) :
    Items (values.flatMap fun value => [',', ' '] ++ value.render.toList) values := by
  induction items with
  | nil => exact .nil
  | cons blankBefore blankAfter denotes others ih =>
      rename_i value values
      have rendered := denotes.rendered (enclosable value List.mem_cons_self)
      have rest := ih fun other member => enclosable other (List.mem_cons_of_mem _ member)
      have all := @Items.cons [] [' '] _ _ _ _ spaces_nil spaces_single
        rendered rest
      simpa using all

theorem toList_intercalate_comma (first : String) (rest : List String) :
    (", ".intercalate (first :: rest)).toList =
      first.toList ++ rest.flatMap fun text => [',', ' '] ++ text.toList := by
  induction rest generalizing first with
  | nil => simp
  | cons second rest ih =>
      rw [String.intercalate_cons_cons, String.toList_append, ih]
      simp

theorem Lists.rendered {list : List Char} {values : List Literal} (lists : Lists list values)
    (enclosable : ∀ value ∈ values, value.Enclosable) :
    Lists ("(" ++ ", ".intercalate (values.map Literal.render) ++ ")").toList values := by
  cases lists with
  | intro blankBefore denotes others blankAfter =>
      rename_i value values
      have first := denotes.rendered (enclosable value List.mem_cons_self)
      have items := others.rendered fun other member =>
        enclosable other (List.mem_cons_of_mem _ member)
      have all := @Lists.intro [] [] _ _ _ _ spaces_nil first items spaces_nil
      have shape : ("(" ++ ", ".intercalate ((value :: values).map Literal.render) ++ ")").toList =
          '(' :: ([] ++ (value.render.toList ++
            ((values.flatMap fun value => [',', ' '] ++ value.render.toList) ++
              ([] ++ [')'])))) := by
        rw [String.toList_append, String.toList_append, List.map_cons, toList_intercalate_comma,
          List.flatMap_map]
        simp
      rw [shape]
      exact all

/-! Tests -/

/-- A number starts with none of the letters that start a keyword. -/
theorem unopened_of_number {written : List Char} (scanned : scanNumber written = .ended [])
    {word : List Char} (known : word ∈ keywords) : startsWith (opens word) written = false := by
  have marks : ∀ word ∈ keywords, ['+', '-', '.'].any (opens word) = false := by decide
  have digits : ∀ code ∈ List.range' 0x30 10, ∀ word ∈ keywords,
      opens word (Char.ofNat code) = false := by
    decide
  apply startsWith_eq_false
  intro c tail same
  subst same
  rcases head_of_number scanned with rfl | rfl | rfl | digit
  · exact Bool.eq_false_iff.mpr (List.any_eq_false.mp (marks word known) _ (by decide))
  · exact Bool.eq_false_iff.mpr (List.any_eq_false.mp (marks word known) _ (by decide))
  · exact Bool.eq_false_iff.mpr (List.any_eq_false.mp (marks word known) _ (by decide))
  · simp only [Decimal.isDigit, Bool.and_eq_true, decide_eq_true_eq] at digit
    have low : 0x30 ≤ c.toNat := digit.1
    have high : c.toNat ≤ 0x39 := digit.2
    have inert := digits c.toNat (by rw [List.mem_range'_1]; omega) word known
    rwa [Char.ofNat_toNat] at inert

/-- A rendered literal is no test of the key `CONTAINS`, since words are enclosed. -/
theorem Written.clear_rendered {context other : Context} {written : List Char} {value : Literal}
    (literal : Written context written value) (enclosable : value.Enclosable) :
    Clear other value.render.toList := by
  rcases literal with ⟨-, -⟩ | ⟨⟨text⟩ | ⟨wordy⟩, -⟩
  · exact clear_of_quotes (.rendered enclosable)
  · rw [Literal.render, String.toList_ofList]
    refine ⟨afterKeyword_unopened (by decide) (unopened_of_number text.scanned (by decide)), ?_⟩
    intro rest read
    rw [afterKeyword_unopened (by decide) (unopened_of_number text.scanned (by decide))] at read
    cases read
  · exact clear_of_quotes (.rendered enclosable)

theorem Negates.rendered {key before : List Char} {negated : Bool}
    (negates : Negates key negated before) : Negates key negated (negation negated).toList := by
  cases negates with
  | plain => exact .plain
  | negated other =>
      have shape : (negation true).toList = wordNot ++ [' '] := by
        simp [negation, wordNot]
      rw [shape]
      exact .negated other rfl spaces_single (by simp)

/-- What is said of a key is said by the rendering after the key and a blank. -/
theorem Says.rendered {context other : Context} {key written : List Char} {expr : Expr}
    (said : Says context key written expr) (free : other ≠ .tight)
    (enclosable : ∀ value ∈ expr.literals, value.Enclosable) :
    ∃ test, expr.render.toList = key ++ ([' '] ++ test) ∧ Says other key test expr := by
  cases said with
  | present negates spelt tight =>
      rename_i negated
      refine ⟨(negation negated).toList ++ wordExists, ?_, .present negates.rendered rfl free⟩
      simp [Expr.render, wordExists]
  | oneOf negates spelt blank lists =>
      rename_i values negated
      refine ⟨_, ?_, .oneOf negates.rendered (rfl : Spelt wordIn wordIn)
        spaces_single (lists.rendered enclosable)⟩
      simp [Expr.render, wordIn]
  | symbol known blank literal =>
      rename_i operator value
      have symbols : ∀ entry ∈ symbolOperators,
          (entry.2.symbol.toList, entry.2) ∈ symbolOperators := by
        decide
      refine ⟨_, ?_, .symbol (symbols _ known) spaces_single
        (literal.rendered (enclosable value (by simp [Expr.literals])) free)⟩
      simp [Expr.render]
  | contains spelt blank literal ends clear =>
      rename_i value
      have known : value.Enclosable := enclosable value (by simp [Expr.literals])
      refine ⟨_, ?_, .contains (rfl : Spelt wordContains wordContains)
        spaces_single (literal.rendered known free) rfl
        fun _ => literal.clear_rendered known⟩
      simp [Expr.render, Operator.symbol, wordContains]

/-! Expressions -/

theorem Spells.spaced_any {level : Level} {context : Context} {text blanks : List Char}
    {expr : Expr} (spells : Spells level context text expr) (blank : Spaces blanks) :
    Spells level context (blanks ++ text) expr := by
  induction spells with
  | spaced inside term => exact .spaced blank (.spaced inside term)
  | negation spelt ends term => exact .spaced blank (.negation spelt ends term)
  | group inner inside => exact .spaced blank (.group inner inside)
  | predicate nonempty passed inside ends said =>
      exact .spaced blank (.predicate nonempty passed inside ends said)
  | term _ ih => exact .term ih
  | and _ joins term ih =>
      rw [← List.append_assoc]
      exact .and ih joins term
  | conjunction _ ih => exact .conjunction ih
  | or _ joins conjunction ih =>
      rw [← List.append_assoc]
      exact .or ih joins conjunction

/-- Every choice made in reading a text is made again in reading its rendering. -/
theorem Spells.rendered {level : Level} {context : Context} {text : List Char} {expr : Expr}
    (spells : Spells level context text expr)
    (enclosable : ∀ value ∈ expr.literals, value.Enclosable) {other : Context}
    (free : other ≠ .tight) : Spells level other expr.render.toList expr := by
  -- Blanks stand around every word of a rendering, so no part of it meets a tight context.
  induction spells generalizing other with
  | spaced _ _ ih => exact ih enclosable free
  | negation spelt ends term ih =>
      rename_i inner
      have shape : (Expr.not inner).render.toList = wordNot ++ ([' '] ++ inner.render.toList) := by
        simp [Expr.render, wordNot]
      rw [shape]
      exact .negation rfl rfl (.spaced spaces_single (ih enclosable free))
  | group disjunction blank ih =>
      rename_i inner
      have shape : (Expr.group inner).render.toList =
          '(' :: (inner.render.toList ++ ([] ++ [')'])) := by
        simp [Expr.render]
      rw [shape]
      exact .group (ih enclosable (by decide)) spaces_nil
  | predicate nonempty passed blank ends said =>
      rcases said.rendered free enclosable with ⟨test, shape, rendered⟩
      rw [shape]
      exact .predicate nonempty passed spaces_single rfl rendered
  | term _ ih => exact .term (ih enclosable free)
  | and conjunction joins term ihLeft ihRight =>
      rename_i left right
      have shape : (Expr.and left right).render.toList = left.render.toList ++
          (([' '] ++ wordAnd) ++ ([' '] ++ right.render.toList)) := by
        simp [Expr.render, wordAnd]
      have first := ihLeft (fun value member => enclosable value (List.mem_append_left _ member))
        (by decide : Context.word ≠ .tight)
      have second := ihRight (fun value member => enclosable value (List.mem_append_right _ member))
        free
      rw [shape]
      exact .and first (.word spaces_single (by simp) rfl rfl) (.spaced spaces_single second)
  | conjunction _ ih => exact .conjunction (ih enclosable free)
  | or disjunction joins conjunction ihLeft ihRight =>
      rename_i left right
      have shape : (Expr.or left right).render.toList = left.render.toList ++
          (([' '] ++ wordOr) ++ ([' '] ++ right.render.toList)) := by
        simp [Expr.render, wordOr]
      have first := ihLeft (fun value member => enclosable value (List.mem_append_left _ member))
        (by decide : Context.word ≠ .tight)
      have second := ihRight (fun value member => enclosable value (List.mem_append_right _ member))
        free
      rw [shape]
      exact .or first (.word spaces_single (by simp) rfl rfl) (second.spaced_any spaces_single)

theorem solid_literal {context : Context} {written : List Char} {value : Literal}
    (literal : Written context written value) : Solid value.render.toList := by
  have enclosed : ∀ content : String, Solid (Literal.word content).render.toList := by
    intro content
    have shape : (Literal.word content).render.toList =
        ['"'] ++ (content.toList ++ ['"']) := by
      simp [Literal.render]
    rw [shape]
    exact Solid.between ⟨by simp, rfl, rfl⟩ ⟨by simp, rfl, rfl⟩ _
  rcases literal with ⟨-, -⟩ | ⟨plain, -⟩
  · exact enclosed _
  · cases plain with
    | number text =>
        rw [Literal.render, String.toList_ofList]
        exact solid_of_bare (Plain.number text).bare (Plain.number text).ne_nil
    | word wordy => exact enclosed _

theorem solid_said {context : Context} {key written : List Char} {expr : Expr}
    (said : Says context key written expr) (solid : Solid key) : Solid expr.render.toList := by
  cases said with
  | present negates spelt free =>
      rename_i negated
      have whole := solid.between (⟨by simp [wordExists], rfl, rfl⟩ : Solid wordExists)
        ([' '] ++ (negation negated).toList)
      simpa [Expr.render, wordExists] using whole
  | oneOf negates spelt blank lists =>
      rename_i values negated
      have whole := solid.between (⟨by simp, rfl, rfl⟩ : Solid [')'])
        ([' '] ++ (negation negated).toList ++ "IN (".toList ++
          (", ".intercalate (values.map Literal.render)).toList)
      simpa [Expr.render] using whole
  | symbol known blank literal =>
      rename_i operator value
      have whole := solid.between (solid_literal literal)
        ([' '] ++ operator.symbol.toList ++ [' '])
      simpa [Expr.render] using whole
  | contains spelt blank literal =>
      have whole := solid.between (solid_literal literal)
        ([' '] ++ Operator.contains.symbol.toList ++ [' '])
      simpa [Expr.render] using whole

theorem solid_render {level : Level} {context : Context} {text : List Char} {expr : Expr}
    (spells : Spells level context text expr) : Solid expr.render.toList := by
  induction spells with
  | spaced _ _ ih => exact ih
  | negation _ _ _ ih =>
      have solid := Solid.between (⟨by simp [wordNot], rfl, rfl⟩ : Solid wordNot) ih [' ']
      simpa [Expr.render, wordNot] using solid
  | group disjunction blank ih =>
      rename_i inner
      have solid := Solid.between (⟨by simp, rfl, rfl⟩ : Solid ['('])
        (⟨by simp, rfl, rfl⟩ : Solid [')']) inner.render.toList
      simpa [Expr.render] using solid
  | predicate nonempty passed _ _ said =>
      exact solid_said said
        (solid_of_bare (fun c member => isBareChar_of_isKeyChar (passed c member)) nonempty)
  | term _ ih => exact ih
  | and _ _ _ ihLeft ihRight => simpa [Expr.render] using ihLeft.between ihRight " AND ".toList
  | conjunction _ ih => exact ih
  | or _ _ _ ihLeft ihRight => simpa [Expr.render] using ihLeft.between ihRight " OR ".toList

/-- An expression that was read from a text is read again from its rendering, whatever blanks and
spellings the text had. -/
theorem readExpr_render {text : String} {expr : Expr} (read : readExpr text = .ok expr)
    (written : expr ≠ .all) (enclosable : ∀ value ∈ expr.literals, value.Enclosable) :
    readExpr expr.render = .ok expr := by
  rcases readExpr_eq_ok_iff.mp read with ⟨-, nothing⟩ | spells
  · exact absurd nothing written
  · apply readExpr_eq_ok_iff.mpr
    rw [(solid_render spells).trimmed_eq]
    exact .inr (spells.rendered enclosable (by decide))

/-- What single quotes enclose may hold a double quote, and then the rendering is another text. -/
example : readExpr (Expr.comparison "a" .equal (.word "\"")).render =
    .error (.leftOver "\"") := by
  cbv

/-- Keys spelt like keywords, a list without blanks, words without quotes. -/
def crowded : Expr :=
  .or
    (.and (.comparison "not" .contains (.word "contains"))
      (.group (.or (.comparison "le" .lessOrEqual (.number 2000 "2e3"))
        (.oneOf "in" [.number 1 "1", .word "web"] false))))
    (.not (.present "y" true))

theorem readExpr_render_crowded : readExpr crowded.render = .ok crowded := by
  have read : readExpr "not contains contains&&( le<=2e3||in in(1 ,web) ) or not y Not EXISTS" =
      .ok crowded :=
    readExpr_of_readBy (by decide +kernel)
  exact readExpr_render read (by decide) (by simp [crowded, Expr.literals, Literal.Enclosable])

end SeriesQuery.Filter
