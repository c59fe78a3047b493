import SeriesQuery.Proofs.Filter.Spelling
/-!
What readers leave unread is an end of their text, whatever comes after it. Each way to put readers
together keeps this, and so, by induction on the length of the text, does the grammar.
-/
namespace SeriesQuery.Filter

/-- An end of a text that is shorter than it. -/
def ShorterEnd (rest text : List Char) : Prop := rest <:+ text ∧ rest.length < text.length

instance (rest text : List Char) : Decidable (ShorterEnd rest text) :=
  inferInstanceAs (Decidable (_ ∧ _))

namespace ShorterEnd

variable {first second third : List Char}

theorem of_append {written : List Char} (nonempty : written ≠ []) (rest : List Char) :
    ShorterEnd rest (written ++ rest) := by
  have := List.length_pos_iff.mpr nonempty
  exact ⟨List.suffix_append written rest, by rw [List.length_append]; omega⟩

theorem trans_suffix (shorter : ShorterEnd first second) (suffix : second <:+ third) :
    ShorterEnd first third :=
  ⟨shorter.1.trans suffix, Nat.lt_of_lt_of_le shorter.2 suffix.length_le⟩

theorem of_suffix (suffix : first <:+ second) (shorter : ShorterEnd second third) :
    ShorterEnd first third :=
  ⟨suffix.trans shorter.1, Nat.lt_of_le_of_lt suffix.length_le shorter.2⟩

end ShorterEnd

theorem skipSpaces_suffix (text : List Char) : skipSpaces text <:+ text :=
  List.dropWhile_suffix isSpace

/-! Words and separators -/

theorem afterKeyword_suffix {word text rest : List Char}
    (read : afterKeyword word text = some rest) : rest <:+ text := by
  rcases afterKeyword_eq_some_iff.mp read with ⟨written, -, -, rfl⟩
  exact List.suffix_append written rest

theorem afterNot_suffix {text rest : List Char} (read : afterNot text = some rest) :
    rest <:+ text := by
  rw [afterNot] at read
  split at read
  · rename_i left keyword
    rcases afterRun_eq_some_iff.mp read with ⟨blanks, -, -, -, split⟩
    rw [split] at keyword
    exact (List.suffix_append blanks rest).trans (afterKeyword_suffix keyword)
  · cases read

theorem readOperator_suffix {text rest : List Char} {operator : Operator}
    (read : readOperator text = .ok (operator, rest)) : rest <:+ text := by
  rcases readOperator_eq_ok read with ⟨mark, -, rfl⟩ | ⟨-, word, -, -, rfl⟩
  · exact List.suffix_append mark rest
  · exact List.suffix_append word rest

theorem afterNegation_shorter {text next : List Char} (read : afterNegation text = some next) :
    ShorterEnd next text := by
  rcases afterNegation_eq_some_iff.mp read with ⟨word, left, spelt, -, rfl, rfl⟩
  exact .of_suffix (skipSpaces_suffix left) (.of_append (spelt.ne_nil (by decide)) left)

theorem afterConnective_shorter {symbol word text next : List Char}
    (known : (symbol, word) ∈ connectives) (read : afterConnective symbol word text = some next) :
    ShorterEnd next text := by
  rcases joins_of_afterConnective read with ⟨context, joint, left, rfl, rfl, joins⟩
  exact .of_suffix (skipSpaces_suffix left) (.of_append (joins.ne_nil known) left)

theorem afterComma_shorter {text next : List Char} (read : afterComma text = some next) :
    ShorterEnd next text := by
  rcases afterComma_eq_some_iff.mp read with ⟨before, after, -, -, -, rfl⟩
  have split : before ++ ',' :: (after ++ next) = (before ++ ',' :: after) ++ next := by simp
  rw [split]
  exact .of_append (by simp) next

namespace Outcome

variable {α β : Type} {text outer : List Char}

/-- What is found leaves an end of the text. -/
def LeavesEnd (text : List Char) : Outcome α → Prop
  | found _ rest => rest <:+ text
  | refused => True
  | aborted => True

theorem leavesEnd_of_found {outcome : Outcome α}
    (split : ∀ value rest, outcome = .found value rest → ∃ written, text = written ++ rest) :
    outcome.LeavesEnd text := by
  cases outcome with
  | found value rest =>
      rcases split value rest rfl with ⟨written, rfl⟩
      exact List.suffix_append written rest
  | refused => trivial
  | aborted => trivial

theorem LeavesEnd.of_suffix {outcome : Outcome α} (leaves : outcome.LeavesEnd text)
    (suffix : text <:+ outer) : outcome.LeavesEnd outer := by
  cases outcome with
  | found value rest => exact List.IsSuffix.trans leaves suffix
  | refused => trivial
  | aborted => trivial

theorem LeavesEnd.orElse {first second : Outcome α} (left : first.LeavesEnd text)
    (right : second.LeavesEnd text) : (first.orElse second).LeavesEnd text := by
  cases first with
  | found value rest => exact left
  | refused => exact right
  | aborted => trivial

theorem LeavesEnd.bind {first : Outcome α} {next : α → List Char → Outcome β}
    (left : first.LeavesEnd text)
    (right : ∀ value rest, first = .found value rest → (next value rest).LeavesEnd rest) :
    (first.bind next).LeavesEnd text := by
  cases first with
  | found value rest => exact (right value rest rfl).of_suffix left
  | refused => trivial
  | aborted => trivial

theorem leavesEnd_closed (value : α) (text : List Char) :
    (closed value text).LeavesEnd text := by
  rw [closed]
  split
  · rename_i rest closing
    have behind : rest <:+ ')' :: rest := List.suffix_cons ')' rest
    exact (closing ▸ behind).trans (skipSpaces_suffix text)
  · trivial

end Outcome

section Tests

open Outcome

theorem leavesEnd_readLiteral (text : List Char) : (readLiteral text).outcome.LeavesEnd text := by
  refine leavesEnd_of_found fun value rest read => ?_
  rcases outcome_readLiteral_eq_found_iff.mp read with ⟨written, split, -⟩
  exact ⟨written, split⟩

theorem leavesEnd_readList (text : List Char) : (readList text).outcome.LeavesEnd text := by
  refine leavesEnd_of_found fun values rest read => ?_
  rcases outcome_readList_eq_found_iff.mp read with ⟨written, -, split⟩
  exact ⟨written, split⟩

theorem leavesEnd_readExists (key : String) (negated : Bool) (text : List Char) :
    (readExists key negated text).outcome.LeavesEnd text := by
  rw [outcome_readExists]
  split
  · rename_i rest keyword
    exact afterKeyword_suffix keyword
  · trivial

theorem leavesEnd_readIn (key : String) (negated : Bool) (text : List Char) :
    (readIn key negated text).outcome.LeavesEnd text := by
  rw [outcome_readIn]
  split
  · rename_i rest keyword
    have list := (leavesEnd_readList (skipSpaces rest)).of_suffix
      ((skipSpaces_suffix rest).trans (afterKeyword_suffix keyword))
    exact list.bind fun values left _ => List.suffix_refl left
  · trivial

theorem leavesEnd_readNegated {test : (text : List Char) → Reading Expr text}
    (leaves : ∀ text, (test text).outcome.LeavesEnd text) (text : List Char) :
    (readNegated test text).outcome.LeavesEnd text := by
  rw [outcome_readNegated]
  split
  · rename_i rest negation
    exact (leaves rest).of_suffix (afterNot_suffix negation)
  · trivial

theorem leavesEnd_readComparison (key : String) (text : List Char) :
    (readComparison key text).outcome.LeavesEnd text := by
  rw [outcome_readComparison]
  split
  · rename_i operator rest operated
    have literal := (leavesEnd_readLiteral (skipSpaces rest)).of_suffix
      ((skipSpaces_suffix rest).trans (readOperator_suffix operated))
    exact literal.bind fun value left _ => List.suffix_refl left
  · trivial

theorem leavesEnd_readTest (key : String) (text : List Char) :
    (readTest key text).outcome.LeavesEnd text := by
  rw [outcome_readTest]
  exact (leavesEnd_readNegated (leavesEnd_readExists key true) text).orElse
    ((leavesEnd_readExists key false text).orElse
      ((leavesEnd_readNegated (leavesEnd_readIn key true) text).orElse
        ((leavesEnd_readIn key false text).orElse (leavesEnd_readComparison key text))))

theorem leavesEnd_readPredicate (text : List Char) :
    (readPredicate text).outcome.LeavesEnd text := by
  have run : (readRun isKeyChar text).outcome.LeavesEnd text := by
    refine leavesEnd_of_found fun key rest read => ?_
    rcases outcome_readRun_eq_found_iff.mp read with ⟨written, -, -, -, split, -⟩
    exact ⟨written, split⟩
  rw [outcome_readPredicate]
  exact run.bind fun key rest _ => (leavesEnd_readTest key _).of_suffix (skipSpaces_suffix rest)

end Tests

/-! Loops -/

section Loops

open Outcome

variable {α β : Type} {after : List Char → Option (List Char)} {read : List Char → Outcome α}
  {join : β → α → β} {loop : β → List Char → Outcome β}

/-- The loop reads items behind separators; an item that is refused is left unread with the
separator before it. -/
def LoopsOver (after : List Char → Option (List Char)) (read : List Char → Outcome α)
    (join : β → α → β) (loop : β → List Char → Outcome β) : Prop :=
  ∀ gathered text, loop gathered text =
    match after text with
    | none => .found gathered text
    | some next =>
      match read next with
      | .found value rest => loop (join gathered value) rest
      | .refused => .found gathered text
      | .aborted => .aborted

variable (loops : LoopsOver after read join loop)
  (consumes : ∀ {text next}, after text = some next → ShorterEnd next text)

include loops consumes

theorem LoopsOver.leavesEnd {text : List Char} (gathered : β)
    (leaves : ∀ shorter, shorter.length < text.length → (read shorter).LeavesEnd shorter) :
    (loop gathered text).LeavesEnd text := by
  induction size : text.length using Nat.strongRecOn generalizing text gathered with
  | ind _ ih =>
      subst size
      rw [loops]
      split
      · exact List.suffix_refl text
      · rename_i next separator
        have shorter := consumes separator
        split
        · rename_i value rest item
          have suffix : rest <:+ next := by
            have left := leaves next shorter.2
            rwa [item] at left
          have behind := ShorterEnd.of_suffix suffix shorter
          exact (ih rest.length behind.2 (join gathered value)
            (fun other less => leaves other (by have := behind.2; omega)) rfl).of_suffix behind.1
        · exact List.suffix_refl text
        · trivial

end Loops

theorem loopsOver_readAnds : LoopsOver afterAnd (Level.outcome .term) .and
    fun left text => (readAnds left text).outcome := by
  intro left text
  refine (outcome_readAnds left text).trans ?_
  cases afterAnd text with
  | none => rfl
  | some next =>
      simp only [Level.outcome]
      cases (readTerm next).outcome <;> rfl

theorem loopsOver_readOrs : LoopsOver afterOr (Level.outcome .conjunction) .or
    fun left text => (readOrs left text).outcome := by
  intro left text
  refine (outcome_readOrs left text).trans ?_
  cases afterOr text with
  | none => rfl
  | some next =>
      simp only [Level.outcome]
      cases (readConjunction next).outcome <;> rfl

theorem loopsOver_readMore : LoopsOver afterComma (fun text => (readLiteral text).outcome)
    (fun gathered value => value :: gathered)
    fun gathered text => (readMore gathered text).outcome := by
  intro gathered text
  refine (outcome_readMore gathered text).trans ?_
  cases afterComma text with
  | none => rfl
  | some next =>
      dsimp only
      cases (readLiteral next).outcome <;> rfl

theorem afterAnd_shorter {text next : List Char} (read : afterAnd text = some next) :
    ShorterEnd next text := afterConnective_shorter (by decide) read

theorem afterOr_shorter {text next : List Char} (read : afterOr text = some next) :
    ShorterEnd next text := afterConnective_shorter (by decide) read

/-! Levels -/

theorem leavesEnd_group {text : List Char}
    (disjunctions : ∀ shorter, shorter.length < text.length →
      (Level.disjunction.outcome shorter).LeavesEnd shorter) :
    (readGroup text).outcome.LeavesEnd text := by
  by_cases opened : ∃ inner, text = '(' :: inner
  · rcases opened with ⟨inner, rfl⟩
    rw [outcome_readGroup_cons]
    have disjunction := (disjunctions inner (Nat.lt_succ_self _)).of_suffix
      (List.suffix_cons '(' inner)
    exact disjunction.bind fun expr rest _ => Outcome.leavesEnd_closed _ rest
  · rw [outcome_readGroup_other fun inner split => opened ⟨inner, split⟩]
    trivial

theorem leavesEnd_readTerm {text : List Char}
    (terms : ∀ shorter, shorter.length < text.length →
      (Level.term.outcome shorter).LeavesEnd shorter)
    (disjunctions : ∀ shorter, shorter.length < text.length →
      (Level.disjunction.outcome shorter).LeavesEnd shorter) :
    (Level.term.outcome text).LeavesEnd text := by
  have fits := length_skipSpaces_le text
  have negation : (readNegation (skipSpaces text)).outcome.LeavesEnd (skipSpaces text) := by
    rw [outcome_readNegation]
    split
    · rename_i next negation
      have shorter := afterNegation_shorter negation
      have term := (terms next (Nat.lt_of_lt_of_le shorter.2 fits)).of_suffix shorter.1
      exact term.bind fun expr rest _ => List.suffix_refl rest
    · trivial
  have group := leavesEnd_group fun shorter less =>
    disjunctions shorter (Nat.lt_of_lt_of_le less fits)
  rw [Level.outcome, outcome_readTerm]
  exact (negation.orElse (group.orElse (leavesEnd_readPredicate _))).of_suffix
    (skipSpaces_suffix text)

theorem leavesEnd_readConjunction {text : List Char}
    (terms : ∀ shorter, shorter.length < text.length →
      (Level.term.outcome shorter).LeavesEnd shorter)
    (whole : (Level.term.outcome text).LeavesEnd text) :
    (Level.conjunction.outcome text).LeavesEnd text := by
  rw [Level.outcome, outcome_readConjunction]
  refine whole.bind fun first rest term => loopsOver_readAnds.leavesEnd afterAnd_shorter first ?_
  exact fun shorter less => terms shorter (Nat.lt_trans less (Reading.length_lt term))

theorem leavesEnd_readDisjunction {text : List Char}
    (conjunctions : ∀ shorter, shorter.length < text.length →
      (Level.conjunction.outcome shorter).LeavesEnd shorter)
    (whole : (Level.conjunction.outcome text).LeavesEnd text) :
    (Level.disjunction.outcome text).LeavesEnd text := by
  rw [Level.outcome, outcome_readDisjunction]
  refine whole.bind fun first rest conjunction =>
    loopsOver_readOrs.leavesEnd afterOr_shorter first ?_
  exact fun shorter less => conjunctions shorter (Nat.lt_trans less (Reading.length_lt conjunction))

theorem leavesEnd_levels (text : List Char) :
    (Level.term.outcome text).LeavesEnd text ∧ (Level.conjunction.outcome text).LeavesEnd text ∧
      (Level.disjunction.outcome text).LeavesEnd text := by
  induction size : text.length using Nat.strongRecOn generalizing text with
  | ind _ ih =>
      subst size
      have term := leavesEnd_readTerm (fun shorter less => (ih _ less shorter rfl).1)
        fun shorter less => (ih _ less shorter rfl).2.2
      have conjunction :=
        leavesEnd_readConjunction (fun shorter less => (ih _ less shorter rfl).1) term
      exact ⟨term, conjunction,
        leavesEnd_readDisjunction (fun shorter less => (ih _ less shorter rfl).2.1) conjunction⟩

theorem Level.leavesEnd (level : Level) (text : List Char) :
    (level.outcome text).LeavesEnd text := by
  have levels := leavesEnd_levels text
  cases level with
  | term => exact levels.1
  | conjunction => exact levels.2.1
  | disjunction => exact levels.2.2

theorem leavesEnd_readGroup (text : List Char) : (readGroup text).outcome.LeavesEnd text :=
  leavesEnd_group fun shorter _ => Level.disjunction.leavesEnd shorter

end SeriesQuery.Filter
