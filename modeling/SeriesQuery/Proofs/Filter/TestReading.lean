import SeriesQuery.Proofs.Filter.Tests
/-!
The tests that are read of a key are those that the grammar has. Main statements:
`said_of_readTest`, `outcome_readTest_said`, and `outcome_readTerm_said` for a key spelt like `NOT`.
-/
namespace SeriesQuery.Filter

/-! What is read is said -/

/-- What follows `NOT` after a key spelt the same is not readable as a test. -/
theorem refused_of_blocked {key word blanks next : List Char} (spelt : Spelt wordNot word)
    (blank : Spaces blanks) (apart : blanks ≠ []) (solid : startsWith isSpace next = false)
    (blocked : Spelt wordNot key →
      (readPredicate (word ++ (blanks ++ next))).outcome = .refused)
    (isNot : Spelt wordNot key) : (readTest (String.ofList word) next).outcome = .refused := by
  have refused := blocked isNot
  rw [outcome_readPredicate_key (spelt.ne_nil (by decide)) (spelt.isKeyChar (capitals (by decide)))
    (blank.not_key apart next), skipSpaces_solid blank solid] at refused
  exact refused

theorem clear_of_quotes {context : Context} {written : List Char} {value : Literal}
    (quotes : Quotes written value) : Clear context written := by
  rcases quotes with ⟨rfl | rfl, -⟩
  · exact ⟨rfl, fun _ read => by cases read⟩
  · exact ⟨rfl, fun _ read => by cases read⟩

theorem clear_of_refused {context : Context} {key : String} {written rest : List Char}
    {value : Literal} (literal : Written context written value) (before : context.Before rest)
    (refused : (readTest key (written ++ rest)).outcome = .refused) : Clear context written := by
  rcases literal with quotes | ⟨plain, free⟩
  · exact clear_of_quotes quotes
  · rcases refused_parts refused with ⟨noExists, -, noComparison⟩
    have ends := before.not_bare free
    have keyEnds := not_key_of_not_bare ends
    constructor
    · rw [outcome_readExists, afterKeyword_append (capitals (by decide)) keyEnds] at noExists
      cases read : afterKeyword wordExists written with
      | none => rfl
      | some left => simp [read] at noExists
    · intro left read
      rcases afterKeyword_eq_some_iff.mp read with ⟨word, spelt, stops, rfl⟩
      have leftEnds : startsWith isKeyChar (left ++ rest) = false := by
        cases left with
        | nil => exact keyEnds
        | cons c tail => exact stops
      rw [outcome_readComparison, List.append_assoc, readOperator_contains spelt leftEnds]
        at noComparison
      have noLiteral : (readLiteral (skipSpaces (left ++ rest))).outcome = .refused :=
        (Outcome.bind_eq_refused_iff.mp noComparison).resolve_right (by simp)
      cases left with
      | nil =>
          refine ⟨rfl, ?_⟩
          cases context with
          | mark => rfl
          | word => exact absurd noLiteral before.outcome_readLiteral_word
          | tight => exact absurd rfl free
      | cons c tail =>
          have bare : startsWith isBareChar (c :: tail ++ rest) = true :=
            plain.bare c (by simp)
          rw [skipSpaces_of_start (not_space_of_bare bare)] at noLiteral
          exact absurd noLiteral (outcome_readLiteral_ne_refused bare)

/-- In a bare word only the whole word can be `NOT` before blanks. -/
theorem afterNot_plain {written rest next : List Char} (bare : Bare written)
    (ends : startsWith isBareChar rest = false)
    (read : afterNot (written ++ rest) = some next) : next = skipSpaces rest := by
  rw [afterNot, afterKeyword_append (capitals (by decide)) (not_key_of_not_bare ends)] at read
  cases keyword : afterKeyword wordNot written with
  | none => simp [keyword] at read
  | some left =>
      rcases afterKeyword_eq_some_iff.mp keyword with ⟨word, -, -, rfl⟩
      simp only [keyword, Option.map_some] at read
      cases left with
      | nil =>
          rw [afterRun] at read
          split at read
          · exact (Option.some.inj read).symm
          · cases read
      | cons c tail =>
          have solid : startsWith isSpace (c :: (tail ++ rest)) = false :=
            isSpace_of_isBareChar (bare c (by simp))
          rw [List.cons_append, afterRun_eq_none solid] at read
          cases read

theorem present_plain_refused {written rest : List Char} (ends : startsWith isKeyChar rest = false)
    (other : afterKeyword wordExists written = none) (key : String) (negated : Bool) :
    (readExists key negated (written ++ rest)).outcome = .refused := by
  rw [outcome_readExists, afterKeyword_append (capitals (by decide)) ends, other]
  rfl

theorem oneOf_plain_refused {written rest : List Char} (bare : Bare written)
    (ends : startsWith isBareChar rest = false)
    (noList : (readList (skipSpaces rest)).outcome = .refused) (key : String) (negated : Bool) :
    (readIn key negated (written ++ rest)).outcome = .refused := by
  rw [outcome_readIn, afterKeyword_append (capitals (by decide)) (not_key_of_not_bare ends)]
  cases keyword : afterKeyword wordIn written with
  | none => rfl
  | some left =>
      rcases afterKeyword_eq_some_iff.mp keyword with ⟨word, -, -, rfl⟩
      cases left with
      | nil => simp [noList]
      | cons c tail =>
          have known : isBareChar c = true := bare c (by simp)
          have solid : startsWith isSpace (c :: tail ++ rest) = false := isSpace_of_isBareChar known
          have other : ∀ inner, c :: tail ++ rest ≠ '(' :: inner := by
            intro inner split
            obtain ⟨rfl, -⟩ := List.cons.inj split
            cases known
          simp only [Option.map_some]
          rw [skipSpaces_of_start solid, outcome_readList_other other, Outcome.refused_bind]

theorem comparison_plain_refused {written rest : List Char} (bare : Bare written)
    (nonempty : written ≠ []) (ends : startsWith isBareChar rest = false)
    (noMore : ∀ left, afterKeyword wordContains written = some left →
      left = [] ∧ (readLiteral (skipSpaces rest)).outcome = .refused) (key : String) :
    (readComparison key (written ++ rest)).outcome = .refused := by
  rw [outcome_readComparison]
  cases operated : readOperator (written ++ rest) with
  | error => rfl
  | ok read =>
      rcases read with ⟨operator, next⟩
      rcases readOperator_eq_ok operated with
        ⟨mark, known, split⟩ | ⟨rfl, word, spelt, stops, split⟩
      · have unopened := not_opensSymbol_of_bare (bare.startsWith nonempty rest)
        rw [split, opensSymbol_of_mem known] at unopened
        cases unopened
      · have keyword := afterKeyword_eq_some_iff.mpr ⟨word, spelt, stops, split⟩
        rw [afterKeyword_append (capitals (by decide)) (not_key_of_not_bare ends),
          Option.map_eq_some_iff] at keyword
        rcases keyword with ⟨left, inside, rfl⟩
        rcases noMore left inside with ⟨rfl, noLiteral⟩
        simp [noLiteral]

theorem refused_of_clear {context : Context} {written rest : List Char} {value : Literal}
    (literal : Written context written value) (before : context.Before rest)
    (clear : Clear context written) (key : String) :
    (readTest key (written ++ rest)).outcome = .refused := by
  rcases literal with quotes | ⟨plain, free⟩
  · apply outcome_readTest_unopened
    rcases quotes with ⟨rfl | rfl, -⟩ <;> rfl
  · -- Of a bare word only the whole may be a keyword, and after it no test and no list is left.
    have ends := before.not_bare free
    have keyEnds := not_key_of_not_bare ends
    have unopened := before.unopened free
    have noExists := @afterKeyword_unopened wordExists _ (by decide)
      (startsWith_mono (fun c opened => by simp [opensTest, opened]) unopened)
    have noIn := @afterKeyword_unopened wordIn _ (by decide)
      (startsWith_mono (fun c opened => by simp [opensTest, opened]) unopened)
    have negated : ∀ test : (text : List Char) → Reading Expr text,
        (test (skipSpaces rest)).outcome = .refused →
        (readNegated test (written ++ rest)).outcome = .refused := by
      intro test refused
      rw [outcome_readNegated]
      split
      · rename_i next negation
        rw [afterNot_plain plain.bare ends negation]
        exact refused
      · rfl
    rw [outcome_readTest, negated _ (by rw [outcome_readExists, noExists]),
      negated _ (by rw [outcome_readIn, noIn])]
    simp only [Outcome.refused_orElse]
    rw [present_plain_refused keyEnds clear.1, Outcome.refused_orElse,
      oneOf_plain_refused plain.bare ends (before.outcome_readList free), Outcome.refused_orElse]
    apply comparison_plain_refused plain.bare plain.ne_nil ends
    intro left inside
    rcases clear.2 left inside with ⟨rfl, rfl⟩
    exact ⟨rfl, before.outcome_readLiteral_mark⟩

theorem said_of_readComparison {context : Context} {key text rest : List Char} {expr : Expr}
    (read : (readComparison (String.ofList key) text).outcome = .found expr rest)
    (before : context.Before rest)
    (blocked : Spelt wordNot key → (readPredicate text).outcome = .refused) :
    ∃ written, text = written ++ rest ∧ Says context key written expr := by
  rw [outcome_readComparison] at read
  split at read
  · rename_i operator next operated
    rcases Outcome.bind_eq_found_iff.mp read with ⟨value, left, valued, same⟩
    obtain ⟨rfl, rfl⟩ := Outcome.found.inj same
    rcases written_of_readLiteral valued before with ⟨written, split, literal⟩
    rcases exists_spaces next with ⟨blanks, blank, spaced⟩
    rw [split] at spaced
    subst spaced
    rcases readOperator_eq_ok operated with ⟨mark, known, rfl⟩ | ⟨rfl, word, spelt, ends, rfl⟩
    · exact ⟨_, by simp, .symbol known blank literal⟩
    · have stops := (startsWith_append_inner literal.denotes.ne_nil blanks left).symm.trans ends
      refine ⟨_, by simp, .contains spelt blank literal stops ?_⟩
      intro isNot
      have refused := blocked isNot
      rw [outcome_readPredicate_key (spelt.ne_nil (by decide))
        (spelt.isKeyChar (capitals (by decide))) ends,
        skipSpaces_solid blank (literal.denotes.not_space _)] at refused
      exact clear_of_refused literal before refused
  · cases read

theorem said_of_readTest {context : Context} {key text rest : List Char} {expr : Expr}
    (read : (readTest (String.ofList key) text).outcome = .found expr rest)
    (before : context.Before rest)
    (blocked : Spelt wordNot key → (readPredicate text).outcome = .refused) :
    ∃ written, text = written ++ rest ∧ Says context key written expr := by
  rw [outcome_readTest] at read
  rcases Outcome.orElse_eq_found_iff.mp read with notExists | ⟨-, read⟩
  · rcases outcome_readNegated_eq_found_iff.mp notExists with
      ⟨first, blanks, next, isNot, blank, apart, solid, rfl, present⟩
    rcases outcome_readExists_eq_found_iff.mp present with ⟨rfl, word, spelt, ends, rfl⟩
    have other : ¬ Spelt wordNot key := by
      intro same
      have refused := refused_parts (refused_of_blocked isNot blank apart solid blocked same)
      rw [outcome_readExists_eq_found_iff.mpr ⟨rfl, word, spelt, ends, rfl⟩] at refused
      cases refused.1
    exact ⟨_, by simp, .present (.negated other isNot blank apart) spelt (before.free ends)⟩
  · rcases Outcome.orElse_eq_found_iff.mp read with present | ⟨-, read⟩
    · rcases outcome_readExists_eq_found_iff.mp present with ⟨rfl, word, spelt, ends, rfl⟩
      exact ⟨word, rfl, .present .plain spelt (before.free ends)⟩
    · rcases Outcome.orElse_eq_found_iff.mp read with notIn | ⟨-, read⟩
      · rcases outcome_readNegated_eq_found_iff.mp notIn with
          ⟨first, blanks, next, isNot, blank, apart, solid, rfl, oneOf⟩
        rcases outcome_readIn_eq_found_iff.mp oneOf with
          ⟨word, spaces, list, values, spelt, spaced, lists, rfl, rfl⟩
        have other : ¬ Spelt wordNot key := by
          intro same
          have refused := refused_parts (refused_of_blocked isNot blank apart solid blocked same)
          rw [outcome_readIn_eq_found_iff.mpr
            ⟨word, spaces, list, values, spelt, spaced, lists, rfl, rfl⟩] at refused
          cases refused.2.1
        exact ⟨_, by simp, .oneOf (.negated other isNot blank apart) spelt spaced lists⟩
      · rcases Outcome.orElse_eq_found_iff.mp read with oneOf | ⟨-, comparison⟩
        · rcases outcome_readIn_eq_found_iff.mp oneOf with
            ⟨word, spaces, list, values, spelt, spaced, lists, rfl, rfl⟩
          exact ⟨_, by simp, .oneOf .plain spelt spaced lists⟩
        · exact said_of_readComparison comparison before blocked

/-! What is said is read -/

section Unopened

variable {text : List Char}

theorem readNegated_unopened (unopened : startsWith (opens wordNot) text = false)
    (test : (text : List Char) → Reading Expr text) :
    (readNegated test text).outcome = .refused := by
  rw [outcome_readNegated, afterNot_unopened unopened]

theorem readExists_unopened (unopened : startsWith (opens wordExists) text = false) (key : String)
    (negated : Bool) : (readExists key negated text).outcome = .refused := by
  rw [outcome_readExists, afterKeyword_unopened (by decide) unopened]

theorem readIn_unopened (unopened : startsWith (opens wordIn) text = false) (key : String)
    (negated : Bool) : (readIn key negated text).outcome = .refused := by
  rw [outcome_readIn, afterKeyword_unopened (by decide) unopened]

theorem readTest_eq_readComparison (noNot : startsWith (opens wordNot) text = false)
    (noExists : startsWith (opens wordExists) text = false)
    (noIn : startsWith (opens wordIn) text = false) (key : String) :
    (readTest key text).outcome = (readComparison key text).outcome := by
  rw [outcome_readTest, readNegated_unopened noNot, readExists_unopened noExists,
    readNegated_unopened noNot, readIn_unopened noIn]
  rfl

end Unopened

theorem outcome_readNegated_not {word blanks next : List Char} (spelt : Spelt wordNot word)
    (blank : Spaces blanks) (apart : blanks ≠ []) (solid : startsWith isSpace next = false)
    (test : (text : List Char) → Reading Expr text) :
    (readNegated test (word ++ (blanks ++ next))).outcome = (test next).outcome := by
  rw [outcome_readNegated,
    afterNot_eq_some_iff.mpr ⟨word, blanks, spelt, blank, apart, solid, rfl⟩]

theorem outcome_readTest_present {key before word rest : List Char} {negated : Bool}
    (negates : Negates key negated before) (spelt : Spelt wordExists word)
    (ends : startsWith isKeyChar rest = false) :
    (readTest (String.ofList key) (before ++ word ++ rest)).outcome =
      .found (.present (String.ofList key) negated) rest := by
  have present : (readExists (String.ofList key) negated (word ++ rest)).outcome =
      .found (.present (String.ofList key) negated) rest :=
    outcome_readExists_eq_found_iff.mpr ⟨rfl, word, spelt, ends, rfl⟩
  have opened := spelt.opens (by decide)
  rw [outcome_readTest]
  cases negates with
  | plain =>
      rw [List.nil_append, readNegated_unopened (opened wordNot rest), present]
      rfl
  | negated other isNot blank apart =>
      have solid : startsWith isSpace (word ++ rest) = false :=
        not_space_of_bare (spelt.bare (by decide) (by decide) rest)
      rw [List.append_assoc, List.append_assoc, outcome_readNegated_not isNot blank apart solid,
        present]
      rfl

theorem outcome_readTest_oneOf {key before word blanks list rest : List Char}
    {values : List Literal} {negated : Bool} (negates : Negates key negated before)
    (spelt : Spelt wordIn word) (blank : Spaces blanks) (lists : Lists list values) :
    (readTest (String.ofList key) (before ++ (word ++ (blanks ++ list)) ++ rest)).outcome =
      .found (.oneOf (String.ofList key) values negated) rest := by
  have shape : word ++ (blanks ++ list) ++ rest = word ++ (blanks ++ (list ++ rest)) := by simp
  have oneOf : (readIn (String.ofList key) negated (word ++ (blanks ++ (list ++ rest)))).outcome =
      .found (.oneOf (String.ofList key) values negated) rest :=
    outcome_readIn_eq_found_iff.mpr ⟨word, blanks, list, values, spelt, blank, lists, rfl, rfl⟩
  have opened := spelt.opens (by decide)
  rw [outcome_readTest]
  cases negates with
  | plain =>
      rw [List.nil_append, shape, readNegated_unopened (opened wordNot _),
        readExists_unopened (opened wordExists _), readNegated_unopened (opened wordNot _), oneOf]
      rfl
  | negated other isNot spaced apart =>
      have solid : startsWith isSpace (word ++ (blanks ++ (list ++ rest))) = false :=
        not_space_of_bare (spelt.bare (by decide) (by decide) _)
      have notOpened := isNot.opens (by decide) wordExists
      rw [List.append_assoc, shape, List.append_assoc,
        outcome_readNegated_not isNot spaced apart solid,
        readExists_unopened (opened wordExists _), readExists_unopened (notOpened _),
        outcome_readNegated_not isNot spaced apart solid, oneOf]
      rfl

theorem outcome_readTest_said {context : Context} {key written rest : List Char} {expr : Expr}
    (said : Says context key written expr) (before : context.Before rest) :
    (readTest (String.ofList key) (written ++ rest)).outcome = .found expr rest := by
  cases said with
  | present negates spelt free =>
      exact outcome_readTest_present negates spelt (not_key_of_not_bare (before.not_bare free))
  | oneOf negates spelt blank lists => exact outcome_readTest_oneOf negates spelt blank lists
  | symbol known blank literal =>
      have symbol := opensSymbol_of_mem known
      rw [List.append_assoc, List.append_assoc,
        readTest_eq_readComparison (symbol_fails (symbol _) (by decide))
          (symbol_fails (symbol _) (by decide)) (symbol_fails (symbol _) (by decide))]
      exact outcome_readComparison_symbol known blank literal before _
  | contains spelt blank literal ends clear =>
      have opened := spelt.opens (by decide)
      rw [List.append_assoc, List.append_assoc,
        readTest_eq_readComparison (opened wordNot _) (opened wordExists _) (opened wordIn _)]
      exact outcome_readComparison_contains spelt blank literal ends before _

theorem readTerm_refused {text : List Char} (solid : startsWith isSpace text = false)
    (noNot : startsWith (opens wordNot) text = false)
    (noGroup : startsWith (· = '(') text = false)
    (noPredicate : (readPredicate text).outcome = .refused) :
    (readTerm text).outcome = .refused := by
  have negation : (readNegation text).outcome = .refused := by
    rw [outcome_readNegation, afterNegation, afterKeyword_unopened (by decide) noNot]
    rfl
  have group : (readGroup text).outcome = .refused := by
    apply outcome_readGroup_other
    intro inner same
    subst same
    cases noGroup
  rw [outcome_readTerm, skipSpaces_of_start solid, negation, group, noPredicate]
  rfl

/-- A keyword other than `NOT` is a key, and no filter if nothing can be said after it. -/
theorem readTerm_word_refused {word written next : List Char} (spelt : Spelt word written)
    (known : word ∈ keywords) (letters : word ≠ []) (other : (wordNot.head? == word.head?) = false)
    (ends : startsWith isKeyChar next = false)
    (refused : ∀ key, (readTest key (skipSpaces next)).outcome = .refused) :
    (readTerm (written ++ next)).outcome = .refused := by
  have bare := spelt.bare known letters next
  apply readTerm_refused (not_space_of_bare bare)
  · rw [spelt.opens letters, other]
  · exact not_quote_of_bare bare (by decide)
  · rw [outcome_readPredicate_key (spelt.ne_nil letters) (spelt.isKeyChar (capitals known)) ends]
    exact refused _

/-- After a key spelt like `NOT`, what is said of it is no filter of its own. -/
theorem outcome_readTerm_said {context : Context} {key written rest : List Char} {expr : Expr}
    (said : Says context key written expr) (before : context.Before rest)
    (isNot : Spelt wordNot key) : (readTerm (written ++ rest)).outcome = .refused := by
  cases said with
  | present negates spelt free =>
      cases negates with
      | negated other => exact absurd isNot other
      | plain =>
          apply readTerm_word_refused spelt (by decide) (by decide) (by decide)
          · exact not_key_of_not_bare (before.not_bare free)
          · exact outcome_readTest_unopened (before.unopened free)
  | oneOf negates spelt blank lists =>
      cases negates with
      | negated other => exact absurd isNot other
      | plain =>
          rcases lists.starts with ⟨inner, rfl⟩
          rw [List.nil_append, List.append_assoc, List.append_assoc]
          apply readTerm_word_refused spelt (by decide) (by decide) (by decide)
          · exact not_key_of_not_bare (blank.not_bare (isBareChar_of_mem_marks (by decide)))
          · rw [skipSpaces_solid blank rfl]
            exact outcome_readTest_unopened rfl
  | symbol known blank literal =>
      have symbol := opensSymbol_of_mem known
      rw [List.append_assoc]
      apply readTerm_refused (symbol_fails (symbol _) (by decide))
        (symbol_fails (symbol _) (by decide)) (symbol_fails (symbol _) (by decide))
      rw [outcome_readPredicate, outcome_readRun_eq_refused (symbol_fails (symbol _) (by decide))]
      rfl
  | contains spelt blank literal ends clear =>
      rw [List.append_assoc, List.append_assoc]
      apply readTerm_word_refused spelt (by decide) (by decide) (by decide)
      · rw [startsWith_append_inner literal.denotes.ne_nil]
        exact ends
      · rw [skipSpaces_solid blank (literal.denotes.not_space _)]
        exact refused_of_clear literal before (clear isNot)

end SeriesQuery.Filter
