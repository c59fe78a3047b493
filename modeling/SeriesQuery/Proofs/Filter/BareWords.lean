import SeriesQuery.Proofs.Filter.RoundTrip
/-!
Values written without quotes. Main statement: such a word, alone or in a list, stands for the
number it writes or else for itself; but a word that starts like a number whose exponent has no
digit makes the whole filter unreadable.
-/
namespace SeriesQuery.Filter

/-! Words -/

/-- A text that can be a value without quotes. -/
structure BareWord (word : String) : Prop where
  written : word ≠ ""
  bare : Bare word.toList

instance (word : String) : Decidable (BareWord word) :=
  decidable_of_iff (word ≠ "" ∧ word.toList.all isBareChar = true)
    ⟨fun parts => ⟨parts.1, List.all_eq_true.mp parts.2⟩,
      fun known => ⟨known.written, List.all_eq_true.mpr known.bare⟩⟩

/-- What a word stands for: a number if the whole of it writes one. -/
def bareLiteral (word : String) : Literal :=
  match readScalar? word with
  | some value =>
    if ∃ decimal, DecimalText decimal word.toList then .number value word else .word word
  | none => .word word

namespace BareWord

variable {word : String} (known : BareWord word)

include known

theorem ne_nil : word.toList ≠ [] := fun same =>
  known.written (String.toList_eq_nil_iff.mp same)

theorem plain (whole : ¬ Stranded word.toList) : Plain word.toList (bareLiteral word) := by
  by_cases number : ∃ decimal, DecimalText decimal word.toList
  · rcases number with ⟨decimal, text⟩
    have plain := Plain.number text
    have denotes := text.readScalar?_eq
    rw [String.ofList_toList] at plain denotes
    simp only [bareLiteral, denotes]
    rw [if_pos ⟨decimal, text⟩]
    exact plain
  · have wordy : Wordy word.toList := {
      nonempty := known.ne_nil
      bare := known.bare
      unfinished := fun rest scanned => whole (scanNumber_missing_iff.mp ⟨rest, scanned⟩)
      other := fun scanned => number (scanNumber_eq_ended_iff.mp scanned) }
    have plain := Plain.word wordy
    rw [String.ofList_toList] at plain
    have itself : bareLiteral word = .word word := by
      rw [bareLiteral]
      split
      · exact if_neg number
      · rfl
    exact itself ▸ plain

theorem not_space (rest : List Char) : startsWith isSpace (word.toList ++ rest) = false :=
  not_space_of_bare (known.bare.startsWith known.ne_nil rest)

variable {rest : List Char} (ends : startsWith isBareChar rest = false)

include ends

theorem outcome_readLiteral (whole : ¬ Stranded word.toList) :
    (readLiteral (word.toList ++ rest)).outcome = .found (bareLiteral word) rest :=
  outcome_readLiteral_eq_found_iff.mpr ⟨word.toList, rfl, .inr ⟨known.plain whole, ends⟩⟩

/-- No quote opens a word, so it is scanned as a number, and a missing digit ends the reading. -/
theorem outcome_readLiteral_aborted (stranded : Stranded word.toList) :
    (readLiteral (word.toList ++ rest)).outcome = .aborted := by
  have bare := known.bare.startsWith known.ne_nil rest
  have number : (readNumber (word.toList ++ rest)).outcome = .aborted := by
    rcases scanNumber_missing_iff.mpr stranded with ⟨left, scanned⟩
    rw [outcome_readNumber, scanNumber_append ends, scanned]
    rfl
  rw [Filter.outcome_readLiteral, outcome_readQuoted_other (not_quote_of_bare bare (by decide)),
    outcome_readQuoted_other (not_quote_of_bare bare (by decide)), number]
  rfl

end BareWord

/-! Lists of words -/

/-- Words with a comma and a blank before each. -/
def separated (words : List String) : List Char :=
  words.flatMap fun word => [',', ' '] ++ word.toList

theorem separated_cons (word : String) (words : List String) (rest : List Char) :
    separated (word :: words) ++ rest =
      ',' :: ([' '] ++ (word.toList ++ (separated words ++ rest))) := by
  simp [separated]

section Lists

variable {rest : List Char} (ends : startsWith isBareChar rest = false)

include ends

theorem separated_not_bare (words : List String) :
    startsWith isBareChar (separated words ++ rest) = false := by
  cases words with
  | nil => exact ends
  | cons word words =>
      rw [separated_cons]
      exact isBareChar_of_mem_marks (by decide)

theorem outcome_readMore_aborted {words : List String} (known : ∀ word ∈ words, BareWord word)
    (stranded : ∃ word ∈ words, Stranded word.toList) (gathered : List Literal) :
    (readMore gathered (separated words ++ rest)).outcome = .aborted := by
  -- Every word up to the first stranded one is gathered.
  induction words generalizing gathered with
  | nil => simp at stranded
  | cons word others ih =>
      have first := known word List.mem_cons_self
      have comma : afterComma (separated (word :: others) ++ rest) =
          some (word.toList ++ (separated others ++ rest)) :=
        afterComma_eq_some_iff.mpr
          ⟨[], [' '], spaces_nil, spaces_single, first.not_space _, separated_cons word others rest⟩
      rw [outcome_readMore, comma]
      simp only
      by_cases here : Stranded word.toList
      · rw [first.outcome_readLiteral_aborted (separated_not_bare ends others) here]
      · have later : ∃ word ∈ others, Stranded word.toList := by simpa [here] using stranded
        rw [first.outcome_readLiteral (separated_not_bare ends others) here]
        exact ih (fun other member => known other (List.mem_cons_of_mem _ member)) later _

end Lists

theorem items_separated {words : List String} (known : ∀ word ∈ words, BareWord word)
    (whole : ∀ word ∈ words, ¬ Stranded word.toList) :
    Items (separated words) (words.map bareLiteral) := by
  induction words with
  | nil => exact .nil
  | cons word others ih =>
      have first := (known word List.mem_cons_self).plain (whole word List.mem_cons_self)
      have rest := ih (fun other member => known other (List.mem_cons_of_mem _ member))
        fun other member => whole other (List.mem_cons_of_mem _ member)
      have items := @Items.cons [] [' '] _ _ _ _ spaces_nil spaces_single (.inr first) rest
      simpa [separated] using items

theorem outcome_readList_aborted {first : String} {others : List String}
    (known : ∀ word ∈ first :: others, BareWord word)
    (stranded : ∃ word ∈ first :: others, Stranded word.toList) :
    (readList ('(' :: (first.toList ++ (separated others ++ [')'])))).outcome = .aborted := by
  have closes : startsWith isBareChar [')'] = false := isBareChar_of_mem_marks (by decide)
  have start := known first List.mem_cons_self
  rw [outcome_readList_cons, skipSpaces_of_start (start.not_space _)]
  by_cases here : Stranded first.toList
  · rw [start.outcome_readLiteral_aborted (separated_not_bare closes others) here]
    rfl
  · have later : ∃ word ∈ others, Stranded word.toList := by simpa [here] using stranded
    have more := outcome_readMore_aborted closes
      (fun word member => known word (List.mem_cons_of_mem _ member)) later [bareLiteral first]
    rw [start.outcome_readLiteral (separated_not_bare closes others) here, Outcome.found_bind, more]
    rfl

/-! Filters of one test -/

/-- The text is read as the expression, unless a digit is missing in it. -/
structure ReadUnless (text : String) (expr : Expr) (stranded : Prop) : Prop where
  read : ¬ stranded → readExpr text = .ok expr
  refused : stranded → ∃ rest, readExpr text = .error (.unreadable text .digit rest)

section Test

variable {key : String} (name : KeyName key) {text : String} {test : List Char}
  (shape : text.toList = key.toList ++ ([' '] ++ test)) (solid : Solid text.toList)

include name shape solid

theorem readExpr_said {expr : Expr} (said : Says .mark key.toList test expr) :
    readExpr text = .ok expr := by
  apply readExpr_of_spells solid
  rw [shape]
  exact .conjunction (.term (.predicate name.ne_nil name.known spaces_single rfl said))

theorem readExpr_aborted (start : startsWith isSpace test = false)
    (negated : (readTerm test).outcome = .refused)
    (aborted : (readTest key test).outcome = .aborted) :
    ∃ rest, readExpr text = .error (.unreadable text .digit rest) := by
  have negated' : (readTerm ([' '] ++ test)).outcome = .refused :=
    (outcome_readTerm_spaced spaces_single test).trans negated
  have term : (readTerm text.toList).outcome = .aborted := by
    rw [shape, outcome_readTerm_key name.ne_nil name.known rfl fun _ => negated',
      skipSpaces_solid spaces_single start, String.ofList_toList]
    exact aborted
  apply readExpr_of_aborted solid
  rw [outcome_readDisjunction, outcome_readConjunction, term]
  rfl

end Test

section Equality

variable {key word : String} (name : KeyName key) (known : BareWord word)

include name known

theorem readUnless_equal : ReadUnless (key ++ " = " ++ word)
    (.comparison key .equal (bareLiteral word)) (Stranded word.toList) := by
  have shape : (key ++ " = " ++ word).toList =
      key.toList ++ ([' '] ++ (['='] ++ ([' '] ++ word.toList))) := by
    simp
  have solid : Solid (key ++ " = " ++ word).toList := by
    have whole := (solid_of_bare (fun c member => isBareChar_of_isKeyChar (name.known c member))
      name.ne_nil).between (solid_of_bare known.bare known.ne_nil) " = ".toList
    simpa using whole
  constructor
  · intro whole
    have literal : Written .mark word.toList (bareLiteral word) :=
      .inr ⟨known.plain whole, by decide⟩
    have said : Says .mark key.toList (['='] ++ ([' '] ++ word.toList)) _ :=
      .symbol (by decide : (['='], Operator.equal) ∈ symbolOperators) spaces_single literal
    rw [String.ofList_toList] at said
    exact readExpr_said name shape solid said
  · intro stranded
    have literal := known.outcome_readLiteral_aborted (rfl : startsWith isBareChar [] = false)
      stranded
    rw [List.append_nil] at literal
    have operator : readOperator (['='] ++ ([' '] ++ word.toList)) =
        .ok (.equal, [' '] ++ word.toList) :=
      readOperator_symbol (by decide) rfl
    have refused : (readPredicate (['='] ++ ([' '] ++ word.toList))).outcome = .refused := by
      rw [outcome_readPredicate, outcome_readRun_eq_refused rfl]
      rfl
    have solid' := known.not_space []
    rw [List.append_nil] at solid'
    apply readExpr_aborted name shape solid rfl (readTerm_refused rfl rfl rfl refused)
    rw [readTest_eq_readComparison rfl rfl rfl, outcome_readComparison, operator]
    simp only
    rw [skipSpaces_solid spaces_single solid', literal]
    rfl

end Equality

/-- Words in parentheses. -/
def wordList (first : String) (others : List String) : List Char :=
  '(' :: (first.toList ++ (separated others ++ [')']))

theorem lists_wordList {first : String} {others : List String}
    (known : ∀ word ∈ first :: others, BareWord word)
    (whole : ∀ word ∈ first :: others, ¬ Stranded word.toList) :
    Lists (wordList first others) ((first :: others).map bareLiteral) := by
  have start := (known first List.mem_cons_self).plain (whole first List.mem_cons_self)
  have items := items_separated (fun word member => known word (List.mem_cons_of_mem _ member))
    fun word member => whole word (List.mem_cons_of_mem _ member)
  exact @Lists.intro [] [] _ _ _ _ spaces_nil (.inr start) items spaces_nil

theorem readTest_oneOf_aborted {first : String} {others : List String}
    (known : ∀ word ∈ first :: others, BareWord word)
    (stranded : ∃ word ∈ first :: others, Stranded word.toList) (key : String) :
    (readTest key (wordIn ++ ([' '] ++ wordList first others))).outcome = .aborted := by
  have keyword : afterKeyword wordIn (wordIn ++ ([' '] ++ wordList first others)) =
      some ([' '] ++ wordList first others) :=
    afterKeyword_eq_some_iff.mpr ⟨wordIn, rfl, rfl, rfl⟩
  have list : (readList (wordList first others)).outcome = .aborted :=
    outcome_readList_aborted known stranded
  rw [outcome_readTest, readNegated_unopened rfl, readExists_unopened rfl,
    readNegated_unopened rfl, outcome_readIn, keyword]
  simp only
  rw [skipSpaces_solid spaces_single rfl, list]
  rfl

theorem readUnless_oneOf {key first : String} {others : List String} (name : KeyName key)
    (known : ∀ word ∈ first :: others, BareWord word) :
    ReadUnless (key ++ " IN (" ++ ", ".intercalate (first :: others) ++ ")")
      (.oneOf key ((first :: others).map bareLiteral) false)
      (∃ word ∈ first :: others, Stranded word.toList) := by
  have shape : (key ++ " IN (" ++ ", ".intercalate (first :: others) ++ ")").toList =
      key.toList ++ ([' '] ++ (wordIn ++ ([' '] ++ wordList first others))) := by
    simp only [String.toList_append, toList_intercalate_comma]
    simp [wordIn, wordList, separated]
  have solid : Solid (key ++ " IN (" ++ ", ".intercalate (first :: others) ++ ")").toList := by
    have whole := (solid_of_bare (fun c member => isBareChar_of_isKeyChar (name.known c member))
      name.ne_nil).between (⟨by simp, rfl, rfl⟩ : Solid [')'])
      (" IN (".toList ++ (", ".intercalate (first :: others)).toList)
    simpa using whole
  constructor
  · intro whole
    have lists := lists_wordList known fun word member stranded => whole ⟨word, member, stranded⟩
    have said : Says .mark key.toList (wordIn ++ ([' '] ++ wordList first others)) _ :=
      .oneOf .plain (rfl : Spelt wordIn wordIn) spaces_single lists
    rw [String.ofList_toList] at said
    exact readExpr_said name shape solid said
  · intro stranded
    have term : (readTerm (wordIn ++ ([' '] ++ wordList first others))).outcome = .refused :=
      readTerm_word_refused rfl (by decide) (by decide) (by decide) rfl fun other =>
        outcome_readTest_unopened rfl other
    exact readExpr_aborted name shape solid rfl term (readTest_oneOf_aborted known stranded key)

/-- Words are literals, and only a missing digit of an exponent refuses them. -/
theorem readUnless_bareWords {key : String} (name : KeyName key) :
    (∀ word, BareWord word → ReadUnless (key ++ " = " ++ word)
      (.comparison key .equal (bareLiteral word)) (Stranded word.toList)) ∧
    ∀ words, words ≠ [] → (∀ word ∈ words, BareWord word) →
      ReadUnless (key ++ " IN (" ++ ", ".intercalate words ++ ")")
        (.oneOf key (words.map bareLiteral) false) (∃ word ∈ words, Stranded word.toList) := by
  refine ⟨fun word known => readUnless_equal name known, ?_⟩
  intro words filled known
  cases words with
  | nil => exact absurd rfl filled
  | cons first others => exact readUnless_oneOf name known

/-- A key spelt like `NOT`, words that start like numbers, and one that lacks a digit. -/
theorem readUnless_bareWords_mixed :
    KeyName "NOT" ∧
    readExpr ("NOT" ++ " = " ++ "10abc") = .ok (.comparison "NOT" .equal (.word "10abc")) ∧
    readExpr ("NOT" ++ " IN (" ++ ", ".intercalate ["1e5", "web-1", "+.5"] ++ ")") =
      .ok (.oneOf "NOT" [.number 100000 "1e5", .word "web-1", .number 0.5 "+.5"] false) ∧
    ∃ rest, readExpr ("NOT" ++ " IN (" ++ ", ".intercalate ["web", "-1.e+x"] ++ ")") =
      .error (.unreadable "NOT IN (web, -1.e+x)" .digit rest) := by
  have name : KeyName "NOT" := by decide
  have literals : ["1e5", "web-1", "+.5"].map bareLiteral =
      [.number 100000 "1e5", .word "web-1", .number 0.5 "+.5"] := by
    decide +kernel
  have theory := readUnless_bareWords name
  have listed :=
    (theory.2 ["1e5", "web-1", "+.5"] (by decide) (by decide)).read (by decide)
  rw [literals] at listed
  exact ⟨name, (theory.1 "10abc" (by decide)).read (by decide), listed,
    (theory.2 ["web", "-1.e+x"] (by decide) (by decide)).refused (by decide)⟩

/-- The start of the name of a host is taken for a number with an exponent. -/
theorem stranded_host :
    KeyName "host" ∧ BareWord "10exec" ∧ bareLiteral "10exec" = .word "10exec" ∧
    readExpr ("host" ++ " = " ++ "10exec") ≠
      .ok (.comparison "host" .equal (bareLiteral "10exec")) ∧
    readExpr "host = 10exec" =
      .error (.unreadable "host = 10exec" .digit ['x', 'e', 'c']) := by
  have refused : readExpr "host = 10exec" =
      .error (.unreadable "host = 10exec" .digit ['x', 'e', 'c']) := by
    cbv
  refine ⟨by decide, by decide, by decide, ?_, refused⟩
  intro read
  cases refused.symm.trans read

end SeriesQuery.Filter
