import SeriesQuery.Proofs.Filter.Grammar
/-!
The readers find what the grammar spells. Main statements: `exists_spells_of_readDisjunction` and
`outcome_readDisjunction_of_spells`.
-/
namespace SeriesQuery.Filter

namespace Level

def outcome : Level → List Char → Outcome Expr
  | term, text => (readTerm text).outcome
  | conjunction, text => (readConjunction text).outcome
  | disjunction, text => (readDisjunction text).outcome

theorem length_lt {level : Level} {text rest : List Char} {expr : Expr}
    (read : level.outcome text = .found expr rest) : rest.length < text.length := by
  cases level <;> exact Reading.length_lt read

end Level

@[simp] theorem outcome_readTerm_skipSpaces (text : List Char) :
    (readTerm (skipSpaces text)).outcome = (readTerm text).outcome := by
  rw [outcome_readTerm, outcome_readTerm, skipSpaces_skipSpaces]

@[simp] theorem outcome_readConjunction_skipSpaces (text : List Char) :
    (readConjunction (skipSpaces text)).outcome = (readConjunction text).outcome := by
  rw [outcome_readConjunction, outcome_readConjunction, outcome_readTerm_skipSpaces]

theorem afterNegation_eq_some_iff {text next : List Char} :
    afterNegation text = some next ↔
      ∃ word left, Spelt wordNot word ∧ startsWith isKeyChar left = false ∧
        next = skipSpaces left ∧ text = word ++ left := by
  rw [afterNegation, Option.map_eq_some_iff]
  constructor
  · intro parts
    rcases parts with ⟨left, keyword, rfl⟩
    rcases afterKeyword_eq_some_iff.mp keyword with ⟨word, spelt, ends, split⟩
    exact ⟨word, left, spelt, ends, rfl, split⟩
  · intro parts
    rcases parts with ⟨word, left, spelt, ends, rfl, split⟩
    exact ⟨left, afterKeyword_eq_some_iff.mpr ⟨word, spelt, ends, split⟩, rfl⟩

/-! What is read is spelt -/

/-- Up to `rest`, whatever context it makes, the text spells the expression. -/
def Gathers (level : Level) (text : List Char) (expr : Expr) (rest : List Char) : Prop :=
  ∀ context, context.Before rest →
    ∃ written, text = written ++ rest ∧ Spells level context written expr

def Sound (level : Level) (text : List Char) : Prop :=
  ∀ expr rest, level.outcome text = .found expr rest → Gathers level text expr rest

theorem gathers_negation {text rest : List Char} {expr : Expr}
    (read : (readNegation text).outcome = .found expr rest)
    (inner : ∀ shorter, shorter.length < text.length → Sound .term shorter) :
    Gathers .term text expr rest := by
  intro context before
  rw [outcome_readNegation] at read
  split at read
  · rename_i next negation
    rcases afterNegation_eq_some_iff.mp negation with ⟨word, left, spelt, ends, rfl, rfl⟩
    rcases Outcome.bind_eq_found_iff.mp read with ⟨negated, tail, term, same⟩
    obtain ⟨rfl, rfl⟩ := Outcome.found.inj same
    rw [outcome_readTerm_skipSpaces] at term
    have shorter : left.length < (word ++ left).length := by
      have := List.length_pos_iff.mpr (spelt.ne_nil (by decide))
      rw [List.length_append]
      omega
    rcases inner left shorter negated tail term context before with ⟨written, rfl, spells⟩
    refine ⟨word ++ written, by simp, .negation spelt ?_ spells⟩
    rw [startsWith_append spells.ne_nil] at ends
    exact ends
  · cases read

theorem gathers_group {text rest : List Char} {expr : Expr}
    (read : (readGroup text).outcome = .found expr rest)
    (inner : ∀ shorter, shorter.length < text.length → Sound .disjunction shorter) :
    Gathers .term text expr rest := by
  intro context before
  by_cases opened : ∃ inside, text = '(' :: inside
  · rcases opened with ⟨inside, rfl⟩
    rw [outcome_readGroup_cons] at read
    rcases Outcome.bind_eq_found_iff.mp read with ⟨grouped, tail, disjunction, closed⟩
    rcases closed_eq_found_iff.mp closed with ⟨rfl, blanks, blank, rfl⟩
    have closing := Closing.of_parenthesis blank rest
    obtain ⟨written, rfl, spells⟩ :=
      inner inside (by simp) grouped _ disjunction .mark closing.before
    exact ⟨_, by simp, .group spells blank⟩
  · rw [outcome_readGroup_other fun inside same => opened ⟨inside, same⟩] at read
    cases read

theorem gathers_predicate {text rest : List Char} {expr : Expr}
    (read : (readPredicate text).outcome = .found expr rest)
    (noNegation : (readNegation text).outcome = .refused) : Gathers .term text expr rest := by
  intro context before
  rw [outcome_readPredicate] at read
  rcases Outcome.bind_eq_found_iff.mp read with ⟨name, left, run, test⟩
  rcases outcome_readRun_eq_found_iff.mp run with ⟨key, nonempty, passed, ends, rfl, rfl⟩
  rcases exists_spaces left with ⟨blanks, blank, split⟩
  -- A key spelt like `NOT` has been tried as a negation before it is taken as a key.
  have blocked : Spelt wordNot key → (readPredicate (skipSpaces left)).outcome = .refused := by
    intro isNot
    rw [outcome_readNegation,
      afterNegation_eq_some_iff.mpr ⟨key, left, isNot, ends, rfl, rfl⟩] at noNegation
    have noTerm := (Outcome.bind_eq_refused_iff.mp noNegation).resolve_right (by simp)
    rw [outcome_readTerm, skipSpaces_skipSpaces] at noTerm
    exact (Outcome.orElse_eq_refused_iff.mp (Outcome.orElse_eq_refused_iff.mp noTerm).2).2
  rcases said_of_readTest test before blocked with ⟨written, found, said⟩
  rw [found] at split
  subst split
  refine ⟨key ++ (blanks ++ written), by simp, .predicate nonempty passed blank ?_ said⟩
  rw [startsWith_append_inner said.starts.1] at ends
  exact ends

theorem sound_term {text : List Char}
    (terms : ∀ shorter, shorter.length < text.length → Sound .term shorter)
    (disjunctions : ∀ shorter, shorter.length < text.length → Sound .disjunction shorter) :
    Sound .term text := by
  intro expr rest read
  rcases exists_spaces text with ⟨blanks, blank, split⟩
  have fits := length_skipSpaces_le text
  suffices gathers : Gathers .term (skipSpaces text) expr rest by
    intro context before
    rcases gathers context before with ⟨written, found, spells⟩
    refine ⟨blanks ++ written, ?_, .spaced blank spells⟩
    rw [List.append_assoc, ← found, ← split]
  rw [Level.outcome, outcome_readTerm] at read
  rcases Outcome.orElse_eq_found_iff.mp read with negation | ⟨noNegation, read⟩
  · exact gathers_negation negation fun shorter less => terms shorter (by omega)
  · rcases Outcome.orElse_eq_found_iff.mp read with group | ⟨-, predicate⟩
    · exact gathers_group group fun shorter less => disjunctions shorter (by omega)
    · exact gathers_predicate predicate noNegation

section Chains

variable {lower upper : Level} {symbol word : List Char} {combine : Expr → Expr → Expr}
  {chain : Expr → List Char → Outcome Expr}

/-- A chain of items of the lower level spells an expression of the upper one. -/
theorem gathers_chain (known : (symbol, word) ∈ connectives)
    (join : ∀ {inner context : Context} {first joint second : List Char} {left right : Expr},
      Spells upper inner first left → Joins symbol word inner joint second →
      Spells lower context second right →
      Spells upper context (first ++ (joint ++ second)) (combine left right))
    (step : ∀ left text, chain left text =
      match afterConnective symbol word text with
      | none => .found left text
      | some next =>
        match lower.outcome next with
        | .found right rest => chain (combine left right) rest
        | .refused => .found left text
        | .aborted => .aborted)
    (skips : ∀ text, lower.outcome (skipSpaces text) = lower.outcome text)
    {text rest whole : List Char} {left expr : Expr}
    (sound : ∀ shorter, shorter.length < text.length → Sound lower shorter)
    (gathers : Gathers upper whole left text) (read : chain left text = .found expr rest) :
    Gathers upper whole expr rest := by
  -- The text left gets shorter and what is spelt before it longer; `whole` is both together.
  induction size : text.length using Nat.strongRecOn generalizing text left with
  | ind _ ih =>
      subst size
      rw [step] at read
      split at read
      · obtain ⟨rfl, rfl⟩ := Outcome.found.inj read
        exact gathers
      · rename_i next connective
        rcases joins_of_afterConnective connective with ⟨inner, joint, after, rfl, rfl, joins⟩
        rw [skips] at read
        split at read
        · rename_i right tail item
          have shorter : after.length < (joint ++ after).length := by
            have := List.length_pos_iff.mpr (joins.ne_nil known)
            rw [List.length_append]
            omega
          have fits : tail.length < (joint ++ after).length :=
            Nat.lt_trans (Level.length_lt item) shorter
          have gathered := sound after shorter right tail item
          refine ih tail.length fits (fun shorter less => sound shorter (by omega)) ?_ read rfl
          intro context before
          rcases gathered context before with ⟨second, rfl, spells⟩
          rcases gathers inner (joins.before known _) with ⟨first, rfl, spelt⟩
          have starts := @startsWith_append isKeyChar second spells.ne_nil tail
          exact ⟨_, by simp, join spelt (joins.of_starts starts.symm) spells⟩
        · obtain ⟨rfl, rfl⟩ := Outcome.found.inj read
          exact gathers
        · cases read

end Chains

theorem sound_conjunction {text : List Char}
    (terms : ∀ shorter, shorter.length < text.length → Sound .term shorter)
    (whole : Sound .term text) : Sound .conjunction text := by
  intro expr rest read
  rw [Level.outcome, outcome_readConjunction] at read
  rcases Outcome.bind_eq_found_iff.mp read with ⟨first, left, term, ands⟩
  have shorter := Reading.length_lt term
  have start : Gathers .conjunction text first left := by
    intro context before
    rcases whole first left term context before with ⟨written, split, spells⟩
    exact ⟨written, split, .term spells⟩
  exact gathers_chain (by decide) .and outcome_readAnds outcome_readTerm_skipSpaces
    (fun _ less => terms _ (by omega)) start ands

theorem sound_disjunction {text : List Char}
    (conjunctions : ∀ shorter, shorter.length < text.length → Sound .conjunction shorter)
    (whole : Sound .conjunction text) : Sound .disjunction text := by
  intro expr rest read
  rw [Level.outcome, outcome_readDisjunction] at read
  rcases Outcome.bind_eq_found_iff.mp read with ⟨first, left, conjunction, ors⟩
  have shorter := Reading.length_lt conjunction
  have start : Gathers .disjunction text first left := by
    intro context before
    rcases whole first left conjunction context before with ⟨written, split, spells⟩
    exact ⟨written, split, .conjunction spells⟩
  exact gathers_chain (by decide) .or outcome_readOrs outcome_readConjunction_skipSpaces
    (fun _ less => conjunctions _ (by omega)) start ors

theorem sound (text : List Char) :
    Sound .term text ∧ Sound .conjunction text ∧ Sound .disjunction text := by
  induction size : text.length using Nat.strongRecOn generalizing text with
  | ind _ ih =>
      subst size
      have term := sound_term (fun shorter less => (ih _ less shorter rfl).1)
        fun shorter less => (ih _ less shorter rfl).2.2
      have conjunction := sound_conjunction (fun shorter less => (ih _ less shorter rfl).1) term
      have disjunction :=
        sound_disjunction (fun shorter less => (ih _ less shorter rfl).2.1) conjunction
      exact ⟨term, conjunction, disjunction⟩

/-- What is read before anything that cannot go on a term is spelt by the text before it. -/
theorem exists_spells_of_readDisjunction {text rest : List Char} {expr : Expr}
    (read : (readDisjunction text).outcome = .found expr rest)
    (before : Context.mark.Before rest) :
    ∃ written, text = written ++ rest ∧ Spells .disjunction .mark written expr :=
  (sound text).2.2 expr rest read .mark before

/-! What is spelt is read -/

/-- Reading a text of the level goes on as its chain does after the expression. -/
def Continues : Level → List Char → Expr → List Char → Prop
  | .term, text, expr, rest => (readTerm text).outcome = .found expr rest
  | .conjunction, text, expr, rest => (readConjunction text).outcome = (readAnds expr rest).outcome
  | .disjunction, text, expr, rest =>
    afterAnd rest = none → (readDisjunction text).outcome = (readOrs expr rest).outcome

theorem outcome_readTerm_spaced {blanks : List Char} (blank : Spaces blanks) (text : List Char) :
    (readTerm (blanks ++ text)).outcome = (readTerm text).outcome := by
  calc
    (readTerm (blanks ++ text)).outcome = (readTerm (skipSpaces (blanks ++ text))).outcome :=
      (outcome_readTerm_skipSpaces _).symm
    _ = (readTerm (skipSpaces text)).outcome := by rw [skipSpaces_append blank]
    _ = (readTerm text).outcome := outcome_readTerm_skipSpaces text

theorem outcome_readTerm_negation {word text rest : List Char} {expr : Expr}
    (spelt : Spelt wordNot word) (ends : startsWith isKeyChar text = false)
    (read : (readTerm text).outcome = .found expr rest) :
    (readTerm (word ++ text)).outcome = .found (.not expr) rest := by
  have solid : startsWith isSpace (word ++ text) = false :=
    not_space_of_bare (spelt.bare (by decide) (by decide) text)
  have negation : afterNegation (word ++ text) = some (skipSpaces text) :=
    afterNegation_eq_some_iff.mpr ⟨word, text, spelt, ends, rfl, rfl⟩
  have found : (readNegation (word ++ text)).outcome = .found (.not expr) rest := by
    rw [outcome_readNegation, negation]
    simp only
    rw [outcome_readTerm_skipSpaces, read, Outcome.found_bind]
  rw [outcome_readTerm, skipSpaces_of_start solid, found, Outcome.found_orElse]

theorem outcome_readTerm_group {inner blanks rest : List Char} {expr : Expr}
    (blank : Spaces blanks)
    (read : (readDisjunction (inner ++ (blanks ++ ')' :: rest))).outcome =
      .found expr (blanks ++ ')' :: rest)) :
    (readTerm ('(' :: (inner ++ (blanks ++ ')' :: rest)))).outcome = .found (.group expr) rest := by
  have noNegation : (readNegation ('(' :: (inner ++ (blanks ++ ')' :: rest)))).outcome =
      .refused := by
    rw [outcome_readNegation, afterNegation, afterKeyword_unopened (by decide) rfl]
    rfl
  rw [outcome_readTerm, skipSpaces_of_start rfl, noNegation, Outcome.refused_orElse,
    outcome_readGroup_cons, read, Outcome.found_bind,
    closed_eq_found_iff.mpr ⟨rfl, blanks, blank, rfl⟩, Outcome.found_orElse]

/-- A term that starts with a key is a test of it, unless it is a negation. -/
theorem outcome_readTerm_key {key rest : List Char} (nonempty : key ≠ [])
    (passed : ∀ c ∈ key, isKeyChar c = true) (ends : startsWith isKeyChar rest = false)
    (negated : Spelt wordNot key → (readTerm rest).outcome = .refused) :
    (readTerm (key ++ rest)).outcome =
      (readTest (String.ofList key) (skipSpaces rest)).outcome := by
  have bare : startsWith isBareChar (key ++ rest) = true :=
    startsWith_of_imp (fun _ => isBareChar_of_isKeyChar) (startsWith_of_all nonempty passed _)
  have noNegation : (readNegation (key ++ rest)).outcome = .refused := by
    rw [outcome_readNegation]
    by_cases isNot : Spelt wordNot key
    · rw [afterNegation_eq_some_iff.mpr ⟨key, _, isNot, ends, rfl, rfl⟩]
      simp only
      rw [outcome_readTerm_skipSpaces, negated isNot, Outcome.refused_bind]
    · rw [afterNegation, afterKeyword_key (capitals (by decide)) passed ends isNot]
      rfl
  have noGroup : (readGroup (key ++ rest)).outcome = .refused := by
    apply outcome_readGroup_other
    intro inner split
    rw [split] at bare
    cases bare
  calc
    (readTerm (key ++ rest)).outcome = (readPredicate (key ++ rest)).outcome := by
      rw [outcome_readTerm, skipSpaces_of_start (not_space_of_bare bare), noNegation, noGroup,
        Outcome.refused_orElse, Outcome.refused_orElse]
    _ = (readTest (String.ofList key) (skipSpaces rest)).outcome :=
      outcome_readPredicate_key nonempty passed ends

theorem outcome_readTerm_predicate {context : Context} {key blanks text rest : List Char}
    {expr : Expr} (nonempty : key ≠ []) (passed : ∀ c ∈ key, isKeyChar c = true)
    (blank : Spaces blanks) (ends : startsWith isKeyChar (blanks ++ text) = false)
    (said : Says context key text expr) (before : context.Before rest) :
    (readTerm (key ++ (blanks ++ (text ++ rest)))).outcome = .found expr rest := by
  rcases said.starts with ⟨written, solid⟩
  have stays : startsWith isSpace (text ++ rest) = false :=
    (startsWith_append written rest).trans solid
  have stops := (startsWith_append_inner written blanks rest).trans ends
  have negated (isNot : Spelt wordNot key) :
      (readTerm (blanks ++ (text ++ rest))).outcome = .refused := by
    rw [outcome_readTerm_spaced blank, outcome_readTerm_said said before isNot]
  rw [outcome_readTerm_key nonempty passed stops negated, skipSpaces_solid blank stays]
  exact outcome_readTest_said said before

theorem outcome_readAnds_end {rest : List Char} (noAnd : afterAnd rest = none) (left : Expr) :
    (readAnds left rest).outcome = .found left rest := by
  rw [outcome_readAnds, noAnd]

theorem outcome_readOrs_end {rest : List Char} (noOr : afterOr rest = none) (left : Expr) :
    (readOrs left rest).outcome = .found left rest := by
  rw [outcome_readOrs, noOr]

theorem continues_of_spells {level : Level} {context : Context} {text rest : List Char}
    {expr : Expr} (spells : Spells level context text expr) (before : context.Before rest) :
    Continues level (text ++ rest) expr rest := by
  -- On the derivation. Chains lean to the left while they are read from the first item on, so a
  -- chain that is spelt so far leaves the rest to the reader of chains.
  induction spells generalizing rest with
  | spaced blank term ih =>
      rw [Continues, List.append_assoc, outcome_readTerm_spaced blank]
      exact ih before
  | negation spelt ends term ih =>
      rw [Continues, List.append_assoc]
      apply outcome_readTerm_negation spelt _ (ih before)
      rw [startsWith_append term.ne_nil]
      exact ends
  | group inner blank ih =>
      rename_i text blanks expr
      have closing := Closing.of_parenthesis blank rest
      have read := ih closing.before closing.afterAnd
      rw [outcome_readOrs_end closing.afterOr] at read
      have shape : '(' :: (text ++ (blanks ++ [')'])) ++ rest =
          '(' :: (text ++ (blanks ++ ')' :: rest)) := by
        simp
      rw [Continues, shape]
      exact outcome_readTerm_group blank read
  | predicate nonempty passed blank ends said =>
      rw [Continues, List.append_assoc, List.append_assoc]
      exact outcome_readTerm_predicate nonempty passed blank ends said before
  | term term ih =>
      rw [Continues, outcome_readConjunction, ih before, Outcome.found_bind]
  | and conjunction joins term ihLeft ihRight =>
      rename_i inner context first joint second left right
      have starts := @startsWith_append isKeyChar second term.ne_nil rest
      have next : afterAnd (joint ++ (second ++ rest)) = some (skipSpaces (second ++ rest)) :=
        afterConnective_joins (by decide) (joins.of_starts starts)
      have item : (readTerm (second ++ rest)).outcome = .found right rest := ihRight before
      rw [Continues, List.append_assoc, List.append_assoc]
      calc
        (readConjunction (first ++ (joint ++ (second ++ rest)))).outcome =
            (readAnds left (joint ++ (second ++ rest))).outcome :=
          ihLeft (joins.before (by decide) (second ++ rest))
        _ = (readAnds (.and left right) rest).outcome := by
          rw [outcome_readAnds, next]
          simp only
          rw [outcome_readTerm_skipSpaces, item]
  | conjunction conjunction ih =>
      intro noAnd
      rw [outcome_readDisjunction, ih before, outcome_readAnds_end noAnd, Outcome.found_bind]
  | or disjunction joins conjunction ihLeft ihRight =>
      rename_i inner context first joint second left right
      intro noAnd
      have starts := @startsWith_append isKeyChar second conjunction.ne_nil rest
      have joined := joins.of_starts starts
      have next : afterOr (joint ++ (second ++ rest)) = some (skipSpaces (second ++ rest)) :=
        afterConnective_joins (by decide) joined
      have item : (readConjunction (second ++ rest)).outcome = .found right rest :=
        (ihRight before).trans (outcome_readAnds_end noAnd right)
      rw [List.append_assoc, List.append_assoc]
      calc
        (readDisjunction (first ++ (joint ++ (second ++ rest)))).outcome =
            (readOrs left (joint ++ (second ++ rest))).outcome :=
          ihLeft (joins.before (by decide) (second ++ rest)) (afterAnd_joinsOr joined)
        _ = (readOrs (.or left right) rest).outcome := by
          rw [outcome_readOrs, next]
          simp only
          rw [outcome_readConjunction_skipSpaces, item]

/-- A text that spells an expression is read as it, before the end or a closing parenthesis. -/
theorem outcome_readDisjunction_of_spells {text rest : List Char} {expr : Expr}
    (spells : Spells .disjunction .mark text expr) (closing : Closing rest) :
    (readDisjunction (text ++ rest)).outcome = .found expr rest := by
  calc
    (readDisjunction (text ++ rest)).outcome = (readOrs expr rest).outcome :=
      continues_of_spells spells closing.before closing.afterAnd
    _ = .found expr rest := outcome_readOrs_end closing.afterOr expr

end SeriesQuery.Filter
