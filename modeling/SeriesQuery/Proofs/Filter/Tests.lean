import SeriesQuery.Proofs.Filter.Context
/-!
What is said of a key, as concatenations, and what the reader of each kind of test comes to. A key
may be spelt like the word `NOT`; what follows such a key must then not be readable as a filter of
its own, since a negation is tried first.
-/
namespace SeriesQuery.Filter

/-! Keys -/

/-- A text that can be a key. -/
structure KeyName (key : String) : Prop where
  written : key ≠ ""
  known : ∀ c ∈ key.toList, isKeyChar c = true

instance (key : String) : Decidable (KeyName key) :=
  decidable_of_iff (key ≠ "" ∧ key.toList.all isKeyChar = true)
    ⟨fun parts => ⟨parts.1, List.all_eq_true.mp parts.2⟩,
      fun name => ⟨name.written, List.all_eq_true.mpr name.known⟩⟩

theorem KeyName.ofList {key : List Char} (nonempty : key ≠ [])
    (passed : ∀ c ∈ key, isKeyChar c = true) : KeyName (String.ofList key) where
  written same := by
    rw [← String.toList_eq_nil_iff, String.toList_ofList] at same
    exact nonempty same
  known := by rwa [String.toList_ofList]

theorem KeyName.ne_nil {key : String} (name : KeyName key) : key.toList ≠ [] :=
  fun same => name.written (String.toList_eq_nil_iff.mp same)

theorem outcome_readPredicate_key {key rest : List Char} (nonempty : key ≠ [])
    (passed : ∀ c ∈ key, isKeyChar c = true) (ends : startsWith isKeyChar rest = false) :
    (readPredicate (key ++ rest)).outcome =
      (readTest (String.ofList key) (skipSpaces rest)).outcome := by
  have run := outcome_readRun_eq_found_iff.mpr ⟨key, nonempty, passed, ends, rfl, rfl⟩
  rw [outcome_readPredicate, run, Outcome.found_bind]

/-! Literals before a context -/

/-- A literal that ends where the context begins. -/
def Written (context : Context) (written : List Char) (value : Literal) : Prop :=
  Quotes written value ∨ Plain written value ∧ context ≠ .tight

theorem Written.denotes {context : Context} {written : List Char} {value : Literal}
    (literal : Written context written value) : Denotes written value :=
  literal.imp id And.left

theorem outcome_readLiteral_written {context : Context} {written rest : List Char}
    {value : Literal} (literal : Written context written value) (before : context.Before rest) :
    (readLiteral (written ++ rest)).outcome = .found value rest :=
  outcome_readLiteral_eq_found_iff.mpr ⟨written, rfl,
    literal.imp id fun ⟨plain, free⟩ => ⟨plain, before.not_bare free⟩⟩

theorem written_of_readLiteral {context : Context} {text rest : List Char} {value : Literal}
    (read : (readLiteral text).outcome = .found value rest) (before : context.Before rest) :
    ∃ written, text = written ++ rest ∧ Written context written value := by
  rcases outcome_readLiteral_eq_found_iff.mp read with ⟨written, split, literal⟩
  exact ⟨written, split,
    literal.imp id fun ⟨plain, ends⟩ => ⟨plain, before.free (not_key_of_not_bare ends)⟩⟩

theorem inert_of_continuesSymbol {c : Char} (continues : continuesSymbol c = true) :
    isBareChar c = false ∧ isSpace c = false := by
  simp only [continuesSymbol, Bool.or_eq_true, decide_eq_true_eq] at continues
  rcases continues with (rfl | rfl) | rfl <;> decide

/-- Neither blanks nor a literal go on from a symbol. -/
theorem Denotes.not_continues {blanks written : List Char} {value : Literal}
    (denotes : Denotes written value) (blank : Spaces blanks) (rest : List Char) :
    startsWith continuesSymbol (blanks ++ (written ++ rest)) = false := by
  apply startsWith_eq_false
  intro c tail split
  cases continues : continuesSymbol c with
  | false => rfl
  | true =>
      rcases inert_of_continuesSymbol continues with ⟨notBare, notSpace⟩
      cases blanks with
      | cons d blanks =>
          obtain ⟨rfl, -⟩ := List.cons.inj split
          rw [blank d List.mem_cons_self] at notSpace
          exact notSpace
      | nil =>
          rcases denotes with ⟨rfl | rfl, -⟩ | plain
          · obtain ⟨rfl, -⟩ := List.cons.inj split
            exact continues.symm
          · obtain ⟨rfl, -⟩ := List.cons.inj split
            exact continues.symm
          · have bare := plain.bare.startsWith plain.ne_nil rest
            rw [show written ++ rest = c :: tail from split, startsWith_cons, notBare] at bare
            exact bare.symm

/-! The operator -/

theorem not_opensSymbol_of_bare {text : List Char} (bare : startsWith isBareChar text = true) :
    startsWith opensSymbol text = false := by
  apply startsWith_eq_false
  intro c tail same
  subst same
  exact not_opensSymbol_of_isBareChar bare

theorem symbol_fails {test : Char → Bool} {text : List Char}
    (symbol : startsWith opensSymbol text = true)
    (fails : ['=', '!', '<', '>'].any test = false) : startsWith test text = false := by
  apply startsWith_eq_false
  intro c tail same
  subst same
  apply Bool.eq_false_iff.mpr
  apply List.any_eq_false.mp fails
  simp only [startsWith_cons, opensSymbol, Bool.or_eq_true, decide_eq_true_eq] at symbol
  rcases symbol with ((rfl | rfl) | rfl) | rfl <;> decide

theorem opensSymbol_of_mem {mark : List Char} {operator : Operator}
    (known : (mark, operator) ∈ symbolOperators) (rest : List Char) :
    startsWith opensSymbol (mark ++ rest) = true := by
  have all : ∀ entry ∈ symbolOperators, startsWith opensSymbol entry.1 = true := by decide
  have opened := all _ known
  cases mark with
  | nil => cases opened
  | cons c tail => exact opened

theorem Spelt.bare {word written : List Char} (spelt : Spelt word written)
    (known : word ∈ keywords) (letters : word ≠ []) (rest : List Char) :
    startsWith isBareChar (written ++ rest) = true :=
  startsWith_of_imp (fun _ => isBareChar_of_isKeyChar)
    (startsWith_of_all (spelt.ne_nil letters) (spelt.isKeyChar (capitals known)) rest)

theorem readOperator_symbol {mark rest : List Char} {operator : Operator}
    (known : (mark, operator) ∈ symbolOperators)
    (ends : startsWith continuesSymbol rest = false) :
    readOperator (mark ++ rest) = .ok (operator, rest) := by
  rw [readOperator, readSymbol_append known ends]

theorem readOperator_contains {word rest : List Char} (spelt : Spelt wordContains word)
    (ends : startsWith isKeyChar rest = false) :
    readOperator (word ++ rest) = .ok (.contains, rest) := by
  have noSymbol := readSymbol_unopened
    (not_opensSymbol_of_bare (spelt.bare (by decide) (by decide) rest))
  rw [readOperator, noSymbol, afterWord_eq_some_iff.mpr ⟨word, spelt, rfl⟩]
  simp [ends]

theorem readOperator_eq_ok {text rest : List Char} {operator : Operator}
    (read : readOperator text = .ok (operator, rest)) :
    (∃ mark, (mark, operator) ∈ symbolOperators ∧ text = mark ++ rest) ∨
      operator = .contains ∧ ∃ word, Spelt wordContains word ∧ startsWith isKeyChar rest = false ∧
        text = word ++ rest := by
  rw [readOperator] at read
  split at read
  · rename_i symbol
    cases read
    exact .inl (mem_of_readSymbol symbol)
  · split at read
    · rename_i after word
      split at read
      · cases read
      · rename_i ends
        cases read
        rcases afterWord_eq_some_iff.mp word with ⟨written, spelt, split⟩
        exact .inr ⟨rfl, written, spelt, by simpa using ends, split⟩
    · cases read

/-! Tests -/

/-- What stands before a test that may be negated. -/
inductive Negates (key : List Char) : Bool → List Char → Prop where
  | plain : Negates key false []
  | negated {word blanks : List Char} (other : ¬ Spelt wordNot key) (spelt : Spelt wordNot word)
      (blank : Spaces blanks) (apart : blanks ≠ []) : Negates key true (word ++ blanks)

/-- A literal that is no test of the key `CONTAINS`. -/
def Clear (context : Context) (written : List Char) : Prop :=
  afterKeyword wordExists written = none ∧
    ∀ rest, afterKeyword wordContains written = some rest → rest = [] ∧ context = .mark

/-- In front of the context the text said this of the key. -/
inductive Says (context : Context) (key : List Char) : List Char → Expr → Prop where
  | present {before word : List Char} {negated : Bool} (negates : Negates key negated before)
      (spelt : Spelt wordExists word) (free : context ≠ .tight) :
      Says context key (before ++ word) (.present (String.ofList key) negated)
  | oneOf {before word blanks list : List Char} {values : List Literal} {negated : Bool}
      (negates : Negates key negated before) (spelt : Spelt wordIn word) (blank : Spaces blanks)
      (lists : Lists list values) :
      Says context key (before ++ (word ++ (blanks ++ list)))
        (.oneOf (String.ofList key) values negated)
  | symbol {mark blanks written : List Char} {operator : Operator} {value : Literal}
      (known : (mark, operator) ∈ symbolOperators) (blank : Spaces blanks)
      (literal : Written context written value) :
      Says context key (mark ++ (blanks ++ written))
        (.comparison (String.ofList key) operator value)
  | contains {word blanks written : List Char} {value : Literal} (spelt : Spelt wordContains word)
      (blank : Spaces blanks) (literal : Written context written value)
      (ends : startsWith isKeyChar (blanks ++ written) = false)
      (clear : Spelt wordNot key → Clear context written) :
      Says context key (word ++ (blanks ++ written))
        (.comparison (String.ofList key) .contains value)

theorem Says.starts {context : Context} {key written : List Char} {expr : Expr}
    (said : Says context key written expr) :
    written ≠ [] ∧ startsWith isSpace written = false := by
  have word : ∀ {word text : List Char}, Spelt word text → word ∈ keywords → word ≠ [] →
      ∀ rest, text ++ rest ≠ [] ∧ startsWith isSpace (text ++ rest) = false := by
    intro word text spelt known letters rest
    exact ⟨by simp [spelt.ne_nil letters], not_space_of_bare (spelt.bare known letters rest)⟩
  cases said with
  | present negates spelt free =>
      cases negates with
      | plain => simpa using word spelt (by decide) (by decide) []
      | negated _ isNot =>
          rw [List.append_assoc]
          exact word isNot (by decide) (by decide) _
  | oneOf negates spelt blank lists =>
      cases negates with
      | plain => exact word spelt (by decide) (by decide) _
      | negated _ isNot =>
          rw [List.append_assoc]
          exact word isNot (by decide) (by decide) _
  | symbol known blank literal =>
      have opened := opensSymbol_of_mem known
      exact ⟨by simp [literal.denotes.ne_nil], symbol_fails (opened _) (by decide)⟩
  | contains spelt blank literal ends clear => exact word spelt (by decide) (by decide) _

/-! Readers of tests -/

theorem Spaces.not_key {blanks : List Char} (blank : Spaces blanks) (apart : blanks ≠ [])
    (rest : List Char) : startsWith isKeyChar (blanks ++ rest) = false := by
  cases blanks with
  | nil => exact absurd rfl apart
  | cons c tail =>
      exact isKeyChar_of_isBareChar_eq_false
        (isBareChar_of_isSpace (blank c List.mem_cons_self))

theorem afterNot_eq_some_iff {text rest : List Char} :
    afterNot text = some rest ↔
      ∃ word blanks, Spelt wordNot word ∧ Spaces blanks ∧ blanks ≠ [] ∧
        startsWith isSpace rest = false ∧ text = word ++ (blanks ++ rest) := by
  constructor
  · intro read
    rw [afterNot] at read
    split at read
    · rename_i after keyword
      rcases afterKeyword_eq_some_iff.mp keyword with ⟨word, spelt, -, rfl⟩
      rcases afterRun_eq_some_iff.mp read with ⟨blanks, apart, blank, solid, rfl⟩
      exact ⟨word, blanks, spelt, blank, apart, solid, rfl⟩
    · cases read
  · intro parts
    rcases parts with ⟨word, blanks, spelt, blank, apart, solid, rfl⟩
    rw [afterNot,
      afterKeyword_eq_some_iff.mpr ⟨word, spelt, blank.not_key apart rest, rfl⟩]
    exact afterRun_eq_some_iff.mpr ⟨blanks, apart, blank, solid, rfl⟩

theorem outcome_readNegated_eq_found_iff {test : (text : List Char) → Reading Expr text}
    {text rest : List Char} {expr : Expr} :
    (readNegated test text).outcome = .found expr rest ↔
      ∃ word blanks next, Spelt wordNot word ∧ Spaces blanks ∧ blanks ≠ [] ∧
        startsWith isSpace next = false ∧ text = word ++ (blanks ++ next) ∧
        (test next).outcome = .found expr rest := by
  rw [outcome_readNegated]
  constructor
  · intro read
    split at read
    · rename_i next negation
      rcases afterNot_eq_some_iff.mp negation with ⟨word, blanks, spelt, blank, apart, solid, split⟩
      exact ⟨word, blanks, next, spelt, blank, apart, solid, split, read⟩
    · cases read
  · intro parts
    rcases parts with ⟨word, blanks, next, spelt, blank, apart, solid, split, read⟩
    rw [afterNot_eq_some_iff.mpr ⟨word, blanks, spelt, blank, apart, solid, split⟩]
    exact read

theorem outcome_readExists_eq_found_iff {key : String} {negated : Bool} {text rest : List Char}
    {expr : Expr} :
    (readExists key negated text).outcome = .found expr rest ↔
      expr = .present key negated ∧
        ∃ word, Spelt wordExists word ∧ startsWith isKeyChar rest = false ∧
          text = word ++ rest := by
  rw [outcome_readExists, ← afterKeyword_eq_some_iff]
  cases afterKeyword wordExists text with
  | none => simp
  | some after => simp [eq_comm]

theorem Lists.starts {list : List Char} {values : List Literal} (lists : Lists list values) :
    ∃ inner, list = '(' :: inner := by
  cases lists
  exact ⟨_, rfl⟩

theorem outcome_readIn_eq_found_iff {key : String} {negated : Bool} {text rest : List Char}
    {expr : Expr} :
    (readIn key negated text).outcome = .found expr rest ↔
      ∃ word blanks list values, Spelt wordIn word ∧ Spaces blanks ∧ Lists list values ∧
        expr = .oneOf key values negated ∧ text = word ++ (blanks ++ (list ++ rest)) := by
  rw [outcome_readIn]
  constructor
  · intro read
    split at read
    · rename_i after keyword
      rcases afterKeyword_eq_some_iff.mp keyword with ⟨word, spelt, -, rfl⟩
      rcases Outcome.bind_eq_found_iff.mp read with ⟨values, left, listed, same⟩
      obtain ⟨rfl, rfl⟩ := Outcome.found.inj same
      rcases outcome_readList_eq_found_iff.mp listed with ⟨list, lists, split⟩
      rcases exists_spaces after with ⟨blanks, blank, spaced⟩
      exact ⟨word, blanks, list, values, spelt, blank, lists, rfl, by rw [← split, ← spaced]⟩
    · cases read
  · intro parts
    rcases parts with ⟨word, blanks, list, values, spelt, blank, lists, rfl, rfl⟩
    rcases lists.starts with ⟨inner, rfl⟩
    have ends : startsWith isKeyChar (blanks ++ ('(' :: inner ++ rest)) = false :=
      not_key_of_not_bare (blank.not_bare (isBareChar_of_mem_marks (by decide)))
    rw [afterKeyword_eq_some_iff.mpr ⟨word, spelt, ends, rfl⟩]
    simp only
    rw [skipSpaces_solid blank rfl,
      outcome_readList_eq_found_iff.mpr ⟨_, lists, rfl⟩, Outcome.found_bind]

theorem outcome_readComparison_symbol {context : Context} {mark blanks written rest : List Char}
    {operator : Operator} {value : Literal} (known : (mark, operator) ∈ symbolOperators)
    (blank : Spaces blanks) (literal : Written context written value)
    (before : context.Before rest) (key : String) :
    (readComparison key (mark ++ (blanks ++ (written ++ rest)))).outcome =
      .found (.comparison key operator value) rest := by
  rw [outcome_readComparison, readOperator_symbol known (literal.denotes.not_continues blank rest)]
  simp only
  rw [skipSpaces_solid blank (literal.denotes.not_space _),
    outcome_readLiteral_written literal before, Outcome.found_bind]

theorem outcome_readComparison_contains {context : Context} {word blanks written rest : List Char}
    {value : Literal} (spelt : Spelt wordContains word) (blank : Spaces blanks)
    (literal : Written context written value)
    (ends : startsWith isKeyChar (blanks ++ written) = false) (before : context.Before rest)
    (key : String) :
    (readComparison key (word ++ (blanks ++ (written ++ rest)))).outcome =
      .found (.comparison key .contains value) rest := by
  have stops := (startsWith_append_inner literal.denotes.ne_nil blanks rest).trans ends
  rw [outcome_readComparison, readOperator_contains spelt stops]
  simp only
  rw [skipSpaces_solid blank (literal.denotes.not_space _),
    outcome_readLiteral_written literal before, Outcome.found_bind]

/-- Where no test is read, none of the plain ones is. -/
theorem refused_parts {key : String} {text : List Char}
    (refused : (readTest key text).outcome = .refused) :
    (readExists key false text).outcome = .refused ∧ (readIn key false text).outcome = .refused ∧
      (readComparison key text).outcome = .refused := by
  rw [outcome_readTest] at refused
  rcases Outcome.orElse_eq_refused_iff.mp refused with ⟨-, refused⟩
  rcases Outcome.orElse_eq_refused_iff.mp refused with ⟨noExists, refused⟩
  rcases Outcome.orElse_eq_refused_iff.mp refused with ⟨-, refused⟩
  rcases Outcome.orElse_eq_refused_iff.mp refused with ⟨noIn, noComparison⟩
  exact ⟨noExists, noIn, noComparison⟩

end SeriesQuery.Filter
