import SeriesQuery.Proofs.Filter.Literals
/-!
What may follow a test, as far as the test depends on it, and which texts no test opens.
-/
namespace SeriesQuery

namespace Text

theorem CodePoints.exists_of_has {code : Nat} {points : CodePoints}
    (found : points.has code = true) :
    ∃ range ∈ points, range.1 ≤ code ∧ code ≤ range.2 := by
  induction points with
  | nil => cases found
  | cons range rest ih =>
      rcases range with ⟨low, high⟩
      rw [has] at found
      split at found
      · cases found
      · split at found
        · exact ⟨(low, high), List.mem_cons_self, by omega, by omega⟩
        · rcases ih found with ⟨other, member, inside⟩
          exact ⟨other, List.mem_cons_of_mem _ member, inside⟩

end Text

namespace Filter

/-! Openings -/

/-- The character may be the first of the word. -/
def opens (word : List Char) (c : Char) : Bool := word.head? == some c.toUpper

def opensSymbol (c : Char) : Bool := c = '=' || c = '!' || c = '<' || c = '>'

/-- The character may be the first of a test. -/
def opensTest (c : Char) : Bool :=
  opens wordNot c || opens wordExists c || opens wordIn c || opens wordContains c || opensSymbol c

theorem afterWord_unopened {word text : List Char} (letters : word ≠ [])
    (unopened : startsWith (opens word) text = false) : afterWord word text = none := by
  cases word with
  | nil => exact absurd rfl letters
  | cons w word =>
      cases text with
      | nil => rfl
      | cons c tail =>
          apply afterWord_cons_other
          intro same
          subst same
          simp [opens] at unopened

theorem afterKeyword_unopened {word text : List Char} (letters : word ≠ [])
    (unopened : startsWith (opens word) text = false) : afterKeyword word text = none := by
  rw [afterKeyword, afterWord_unopened letters unopened]

theorem afterNot_unopened {text : List Char} (unopened : startsWith (opens wordNot) text = false) :
    afterNot text = none := by
  rw [afterNot, afterKeyword_unopened (by decide) unopened]

theorem Spelt.opens {word written : List Char} (spelt : Spelt word written) (letters : word ≠ [])
    (other rest : List Char) :
    startsWith (opens other) (written ++ rest) = (other.head? == word.head?) := by
  cases written with
  | nil => exact absurd (show _ = word from spelt).symm letters
  | cons c tail =>
      rw [← show _ = word from spelt]
      rfl

theorem not_opensSymbol_of_isBareChar {c : Char} (bare : isBareChar c = true) :
    opensSymbol c = false := by
  cases symbol : opensSymbol c with
  | false => rfl
  | true =>
      have mark : c ∈ marks := by
        simp only [opensSymbol, Bool.or_eq_true, decide_eq_true_eq] at symbol
        rcases symbol with ((rfl | rfl) | rfl) | rfl <;> decide
      rw [isBareChar_of_mem_marks mark] at bare
      exact bare.symm

/-! Operators -/

theorem readSymbol_unopened {text : List Char} (unopened : startsWith opensSymbol text = false) :
    readSymbol text symbolOperators = none := by
  cases text with
  | nil => rfl
  | cons c tail =>
      simp only [startsWith_cons, opensSymbol, Bool.or_eq_false_iff, decide_eq_false_iff_not]
        at unopened
      simp [symbolOperators, readSymbol, afterMark, unopened]

theorem mem_of_readSymbol {text rest : List Char} {operator : Operator}
    {symbols : List (List Char × Operator)}
    (read : readSymbol text symbols = some (operator, rest)) :
    ∃ mark, (mark, operator) ∈ symbols ∧ text = mark ++ rest := by
  induction symbols with
  | nil => simp [readSymbol] at read
  | cons symbol others ih =>
      rcases symbol with ⟨mark, named⟩
      rw [readSymbol] at read
      split at read
      · rename_i after
        cases read
        exact ⟨mark, List.mem_cons_self, afterMark_eq_some_iff.mp after⟩
      · rcases ih read with ⟨other, member, split⟩
        exact ⟨other, List.mem_cons_of_mem _ member, split⟩

/-- A symbol that starts with another one would be read in its place. -/
def continuesSymbol (c : Char) : Bool := c = '=' || c = '~' || c = '>'

theorem readSymbol_append {mark rest : List Char} {operator : Operator}
    (known : (mark, operator) ∈ symbolOperators)
    (ends : startsWith continuesSymbol rest = false) :
    readSymbol (mark ++ rest) symbolOperators = some (operator, rest) := by
  have shortest : ∀ mark ∈ ['=', '~', '>'], afterMark [mark] rest = none := by
    intro mark member
    cases rest with
    | nil => rfl
    | cons c tail =>
        have different : c ≠ mark := by
          intro same
          subst same
          simp only [List.mem_cons, List.not_mem_nil, or_false] at member
          rcases member with rfl | rfl | rfl <;> cases ends
        simp [afterMark, different]
  simp only [symbolOperators, List.mem_cons, Prod.mk.injEq, List.not_mem_nil, or_false] at known
  rcases known with ⟨rfl, rfl⟩ | ⟨rfl, rfl⟩ | ⟨rfl, rfl⟩ | ⟨rfl, rfl⟩ | ⟨rfl, rfl⟩ | ⟨rfl, rfl⟩ |
    ⟨rfl, rfl⟩ | ⟨rfl, rfl⟩ | ⟨rfl, rfl⟩ | ⟨rfl, rfl⟩ <;>
  simp [symbolOperators, readSymbol, afterMark, shortest]

theorem outcome_readTest_unopened {text : List Char} (unopened : startsWith opensTest text = false)
    (key : String) : (readTest key text).outcome = .refused := by
  have part : ∀ {test : Char → Bool}, (∀ c, test c = true → opensTest c = true) →
      startsWith test text = false := fun weaker => startsWith_mono weaker unopened
  have noNot := afterNot_unopened (part fun c opened => by simp [opensTest, opened])
  have noExists := @afterKeyword_unopened wordExists text (by decide)
    (part fun c opened => by simp [opensTest, opened])
  have noIn := @afterKeyword_unopened wordIn text (by decide)
    (part fun c opened => by simp [opensTest, opened])
  have noContains := @afterWord_unopened wordContains text (by decide)
    (part fun c opened => by simp [opensTest, opened])
  have noSymbol := readSymbol_unopened (part fun c opened => by simp [opensTest, opened])
  rw [outcome_readTest, outcome_readNegated, outcome_readNegated, outcome_readExists,
    outcome_readIn, outcome_readComparison, readOperator, noNot, noExists, noIn, noSymbol,
    noContains]
  rfl

/-! Contexts -/

/-- What stands after a term: the end or a mark, a connective word after blanks, or such a word at
once. -/
inductive Context where
  | mark
  | word
  | tight
  deriving DecidableEq

/-- The character may be the first of a test, a list or a literal. -/
def goesOn (c : Char) : Bool :=
  isBareChar c || opensTest c || c = '(' || c = '"' || c = '\''

def opensWord (c : Char) : Bool := opens wordAnd c || opens wordOr c

namespace Context

def Before : Context → List Char → Prop
  | mark, rest => startsWith goesOn (skipSpaces rest) = false
  | word, rest => startsWith isSpace rest = true ∧ startsWith opensWord (skipSpaces rest) = true
  | tight, rest => startsWith opensWord rest = true

end Context

/-- Neither a test nor a list nor a literal starts with a blank. -/
theorem not_goesOn_of_isBlank {c : Char} (blank : Text.isBlank c = true) : goesOn c = false := by
  have all : ∀ range ∈ Text.blanks, ∀ code ∈ List.range' range.1 (range.2 - range.1 + 1),
      goesOn (Char.ofNat code) = false := by
    decide +kernel
  rcases Text.CodePoints.exists_of_has blank with ⟨range, member, low, high⟩
  have inside : c.toNat ∈ List.range' range.1 (range.2 - range.1 + 1) := by
    rw [List.mem_range'_1]
    omega
  have inert := all range member c.toNat inside
  rwa [Char.ofNat_toNat] at inert

theorem isKeyChar_of_opensWord {c : Char} (opened : opensWord c = true) : isKeyChar c = true := by
  apply isKeyChar_of_isCapital
  simp only [opensWord, opens, wordAnd, wordOr, List.head?_cons, Bool.or_eq_true, beq_iff_eq,
    Option.some.injEq] at opened
  rcases opened with upper | upper <;> rw [← upper] <;> decide

theorem not_opensTest_of_opensWord {c : Char} (opened : opensWord c = true) :
    opensTest c = false := by
  have symbol := not_opensSymbol_of_isBareChar
    (isBareChar_of_isKeyChar (isKeyChar_of_opensWord opened))
  simp only [opensWord, opens, wordAnd, wordOr, List.head?_cons, Bool.or_eq_true, beq_iff_eq,
    Option.some.injEq] at opened
  rcases opened with upper | upper <;>
    simp [opensTest, opens, symbol, ← upper, wordNot, wordExists, wordIn, wordContains]

theorem startsWith_eq_false {test : Char → Bool} {text : List Char}
    (fails : ∀ c tail, text = c :: tail → test c = false) : startsWith test text = false := by
  cases text with
  | nil => rfl
  | cons c tail => exact fails c tail rfl

theorem startsWith_of_imp {strong weak : Char → Bool} {text : List Char}
    (weaker : ∀ c, strong c = true → weak c = true) (starts : startsWith strong text = true) :
    startsWith weak text = true := by
  cases text with
  | nil => cases starts
  | cons c tail => exact weaker c starts

namespace Context

variable {context : Context} {rest : List Char}

theorem Before.fails {test : Char → Bool} (before : mark.Before rest)
    (stronger : ∀ c, test c = true → goesOn c = true) : startsWith test (skipSpaces rest) = false :=
  startsWith_mono stronger before

theorem Before.not_bare (before : context.Before rest) (free : context ≠ tight) :
    startsWith isBareChar rest = false := by
  cases context with
  | mark =>
      rcases exists_spaces rest with ⟨spaces, blank, split⟩
      rw [split]
      exact blank.not_bare (before.fails fun c bare => by simp [goesOn, bare])
  | word =>
      cases rest with
      | nil => rfl
      | cons c tail => exact isBareChar_of_isSpace before.1
  | tight => exact absurd rfl free

theorem Before.free (before : context.Before rest) (ends : startsWith isKeyChar rest = false) :
    context ≠ tight := by
  intro same
  subst same
  rw [startsWith_of_imp (fun _ => isKeyChar_of_opensWord) before] at ends
  cases ends

theorem Before.unstarted {test : Char → Bool} (before : context.Before rest)
    (free : context ≠ tight) (stronger : ∀ c, test c = true → goesOn c = true)
    (noWord : ∀ c, opensWord c = true → test c = false) :
    startsWith test (skipSpaces rest) = false := by
  cases context with
  | mark => exact before.fails stronger
  | word =>
      apply startsWith_eq_false
      intro c tail split
      have opened := before.2
      rw [split] at opened
      exact noWord c opened
  | tight => exact absurd rfl free

theorem Before.unopened (before : context.Before rest) (free : context ≠ tight) :
    startsWith opensTest (skipSpaces rest) = false :=
  before.unstarted free (fun c opened => by simp [goesOn, opened]) fun _ =>
    not_opensTest_of_opensWord

/-- No list follows. -/
theorem Before.outcome_readList (before : context.Before rest) (free : context ≠ tight) :
    (readList (skipSpaces rest)).outcome = .refused := by
  have unopened : startsWith (· = '(') (skipSpaces rest) = false := by
    apply before.unstarted free (fun c opened => by simp_all [goesOn])
    intro c opened
    rw [decide_eq_false_iff_not]
    intro same
    subst same
    cases opened
  apply outcome_readList_other
  intro inner split
  rw [split] at unopened
  cases unopened

/-- After a mark nothing can be read as a literal, after a word something can. -/
theorem Before.outcome_readLiteral_mark (before : mark.Before rest) :
    (readLiteral (skipSpaces rest)).outcome = .refused :=
  outcome_readLiteral_eq_refused (before.fails fun c bare => by simp [goesOn, bare])
    (before.fails fun c double => by simp_all [goesOn])
    (before.fails fun c single => by simp_all [goesOn])

theorem Before.outcome_readLiteral_word (before : word.Before rest) :
    (readLiteral (skipSpaces rest)).outcome ≠ .refused :=
  outcome_readLiteral_ne_refused
    (startsWith_of_imp
      (fun _ opened => isBareChar_of_isKeyChar (isKeyChar_of_opensWord opened)) before.2)

end Context

end Filter

end SeriesQuery
