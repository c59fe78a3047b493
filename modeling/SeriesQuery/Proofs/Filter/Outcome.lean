import SeriesQuery.Filter.Reader
/-!
What a reading comes to: the value and the text after it, without the bound on its length, and a
refusal without its reason. Every reader gets one equation in these terms.
-/
namespace SeriesQuery.Filter

inductive Outcome (α : Type) where
  | found (value : α) (rest : List Char)
  | refused
  | aborted
  deriving DecidableEq

namespace Outcome

variable {α β : Type}

def orElse (first second : Outcome α) : Outcome α :=
  match first with
  | refused => second
  | settled => settled

def bind (first : Outcome α) (next : α → List Char → Outcome β) : Outcome β :=
  match first with
  | found value rest => next value rest
  | refused => refused
  | aborted => aborted

@[simp] theorem refused_orElse (second : Outcome α) : refused.orElse second = second := rfl

@[simp] theorem found_orElse (value : α) (rest : List Char) (second : Outcome α) :
    (found value rest).orElse second = found value rest := rfl

@[simp] theorem aborted_orElse (second : Outcome α) : aborted.orElse second = aborted := rfl

@[simp] theorem found_bind (value : α) (rest : List Char) (next : α → List Char → Outcome β) :
    (found value rest).bind next = next value rest := rfl

@[simp] theorem refused_bind (next : α → List Char → Outcome β) : refused.bind next = refused := rfl

@[simp] theorem aborted_bind (next : α → List Char → Outcome β) : aborted.bind next = aborted := rfl

theorem orElse_eq_found_iff {first second : Outcome α} {value : α} {rest : List Char} :
    first.orElse second = found value rest ↔
      first = found value rest ∨ first = refused ∧ second = found value rest := by
  cases first <;> simp

theorem orElse_eq_refused_iff {first second : Outcome α} :
    first.orElse second = refused ↔ first = refused ∧ second = refused := by
  cases first <;> simp

theorem bind_eq_found_iff {first : Outcome α} {next : α → List Char → Outcome β} {result : β}
    {left : List Char} :
    first.bind next = found result left ↔
      ∃ value rest, first = found value rest ∧ next value rest = found result left := by
  cases first <;> simp [and_assoc]

theorem bind_eq_refused_iff {first : Outcome α} {next : α → List Char → Outcome β} :
    first.bind next = refused ↔
      first = refused ∨ ∃ value rest, first = found value rest ∧ next value rest = refused := by
  cases first <;> simp [and_assoc]

/-- What comes before a closing parenthesis. -/
def closed (value : α) (rest : List Char) : Outcome α :=
  match skipSpaces rest with
  | ')' :: rest => found value rest
  | _ => refused

end Outcome

namespace Reading

variable {α β : Type} {text outer : List Char}

def outcome : Reading α text → Outcome α
  | found value rest _ => .found value rest
  | refused _ _ => .refused
  | aborted _ => .aborted

@[simp] theorem outcome_found (value : α) (rest : List Char)
    (shorter : rest.length < text.length) :
    (found value rest shorter).outcome = .found value rest := rfl

@[simp] theorem outcome_refused (sought : Sought) (rest : List Char) :
    (refused sought rest : Reading α text).outcome = .refused := rfl

@[simp] theorem outcome_aborted (rest : List Char) :
    (aborted rest : Reading α text).outcome = .aborted := rfl

@[simp] theorem outcome_widen (fits : text.length ≤ outer.length) (reading : Reading α text) :
    (reading.widen fits).outcome = reading.outcome := by
  cases reading <;> rfl

@[simp] theorem outcome_map (change : α → β) (reading : Reading α text) :
    (reading.map change).outcome =
      reading.outcome.bind fun value rest => .found (change value) rest := by
  cases reading <;> rfl

@[simp] theorem outcome_orElse (first : Reading α text) (second : Unit → Reading α text) :
    (first.orElse second).outcome = first.outcome.orElse (second ()).outcome := by
  cases first <;> rfl

theorem length_lt {reading : Reading α text} {value : α} {rest : List Char}
    (read : reading.outcome = .found value rest) : rest.length < text.length := by
  cases reading with
  | found _ _ shorter =>
      obtain ⟨-, rfl⟩ := Outcome.found.inj read
      exact shorter
  | refused => cases read
  | aborted => cases read

end Reading

namespace Chain

variable {α : Type} {text outer : List Char}

def outcome : Chain α text → Outcome α
  | ended value rest _ => .found value rest
  | aborted _ => .aborted

@[simp] theorem outcome_widen (fits : text.length ≤ outer.length) (chain : Chain α text) :
    (chain.widen fits).outcome = chain.outcome := by
  cases chain <;> rfl

end Chain

theorem outcome_readRun (test : Char → Bool) (text : List Char) :
    (readRun test text).outcome =
      match afterRun test text with
      | some rest => .found (String.ofList (text.takeWhile test)) rest
      | none => .refused := by
  rw [readRun]
  split <;> rename_i read <;> simp only [read] <;> rfl

theorem outcome_readNumber (text : List Char) :
    (readNumber text).outcome =
      match scanNumber text with
      | .ended rest =>
        let written := String.ofList (text.take (text.length - rest.length))
        if rest.length < text.length ∧ startsWith isBareChar rest = false then
          match readScalar? written with
          | some value => .found (.number value written) rest
          | none => .refused
        else .refused
      | .missingDigit _ => .aborted
      | .noNumber => .refused := by
  rw [readNumber]
  cases scanNumber text with
  | ended rest =>
      by_cases shorter : rest.length < text.length
      · cases bare : startsWith isBareChar rest
        · simp only [shorter, bare, dite_true, and_self, if_true]
          cases (readScalar? (String.ofList (text.take (text.length - rest.length))) :
            Option Float) <;> rfl
        · simp [shorter, bare]
      · simp [shorter]
  | missingDigit rest => rfl
  | noNumber => rfl

theorem outcome_readQuoted_cons (mark c : Char) (inner : List Char) :
    (readQuoted mark (c :: inner)).outcome =
      if c = mark then
        match inner.dropWhile (· ≠ mark) with
        | [] => .refused
        | _ :: rest => .found (.word (String.ofList (inner.takeWhile (· ≠ mark)))) rest
      else .refused := by
  rw [readQuoted]
  by_cases same : c = mark
  · simp only [if_pos same]
    split <;> rename_i read <;> simp only [read] <;> rfl
  · simp only [if_neg same]
    rfl

theorem outcome_readLiteral (text : List Char) :
    (readLiteral text).outcome =
      (readQuoted '"' text).outcome.orElse ((readQuoted '\'' text).outcome.orElse
        ((readNumber text).outcome.orElse
          ((readRun isBareChar text).outcome.bind fun value rest =>
            .found (.word value) rest))) := by
  simp [readLiteral]

theorem outcome_readMore (gathered : List Literal) (text : List Char) :
    (readMore gathered text).outcome =
      match afterComma text with
      | none => .found gathered text
      | some item =>
        match (readLiteral item).outcome with
        | .found value rest => (readMore (value :: gathered) rest).outcome
        | .refused => .found gathered text
        | .aborted => .aborted := by
  rw [readMore]
  split
  · rename_i comma
    simp only [comma]
    rfl
  · rename_i item comma
    simp only [comma]
    cases readLiteral item with
    | found value rest shorter =>
        simp only [Reading.outcome_found]
        split <;> rename_i more <;> rw [more] <;> rfl
    | refused => rfl
    | aborted => rfl

theorem outcome_readList_cons (inner : List Char) :
    (readList ('(' :: inner)).outcome =
      (readLiteral (skipSpaces inner)).outcome.bind fun first rest =>
        (readMore [first] rest).outcome.bind fun values rest => .closed values.reverse rest := by
  rw [readList]
  cases readLiteral (skipSpaces inner) with
  | found first rest shorter =>
      simp only [Reading.outcome_found, Outcome.found_bind]
      cases readMore [first] rest with
      | ended values rest fits =>
          simp only [Chain.outcome, Outcome.found_bind, Outcome.closed]
          split
          · rename_i read
            simp only [read, Reading.outcome_found]
          · split <;> simp_all
      | aborted => rfl
  | refused => rfl
  | aborted => rfl

theorem outcome_readList_other {text : List Char} (different : ∀ inner, text ≠ '(' :: inner) :
    (readList text).outcome = .refused := by
  unfold readList
  split
  · rename_i inner
    exact absurd rfl (different inner)
  · rfl

theorem outcome_readExists (key : String) (negated : Bool) (text : List Char) :
    (readExists key negated text).outcome =
      match afterKeyword wordExists text with
      | some rest => .found (.present key negated) rest
      | none => .refused := by
  rw [readExists]
  split <;> rename_i read <;> simp only [read] <;> rfl

theorem outcome_readIn (key : String) (negated : Bool) (text : List Char) :
    (readIn key negated text).outcome =
      match afterKeyword wordIn text with
      | some rest =>
        (readList (skipSpaces rest)).outcome.bind fun values rest =>
          .found (.oneOf key values negated) rest
      | none => .refused := by
  rw [readIn]
  split <;> rename_i read <;> simp only [read]
  · simp
  · rfl

theorem outcome_readNegated (test : (text : List Char) → Reading Expr text) (text : List Char) :
    (readNegated test text).outcome =
      match afterNot text with
      | some rest => (test rest).outcome
      | none => .refused := by
  rw [readNegated]
  split <;> rename_i read <;> simp only [read]
  · simp
  · rfl

theorem outcome_readComparison (key : String) (text : List Char) :
    (readComparison key text).outcome =
      match readOperator text with
      | .ok (operator, rest) =>
        (readLiteral (skipSpaces rest)).outcome.bind fun value rest =>
          .found (.comparison key operator value) rest
      | .error _ => .refused := by
  rw [readComparison]
  split <;> rename_i read <;> simp only [read]
  · simp
  · rfl

theorem outcome_readTest (key : String) (text : List Char) :
    (readTest key text).outcome =
      (readNegated (readExists key true) text).outcome.orElse
        ((readExists key false text).outcome.orElse
          ((readNegated (readIn key true) text).outcome.orElse
            ((readIn key false text).outcome.orElse (readComparison key text).outcome))) := by
  simp [readTest]

theorem outcome_readPredicate (text : List Char) :
    (readPredicate text).outcome =
      (readRun isKeyChar text).outcome.bind fun key rest =>
        (readTest key (skipSpaces rest)).outcome := by
  rw [readPredicate]
  cases readRun isKeyChar text with
  | found key rest shorter => simp
  | refused => rfl
  | aborted => rfl

theorem outcome_readTerm (text : List Char) :
    (readTerm text).outcome =
      (readNegation (skipSpaces text)).outcome.orElse
        ((readGroup (skipSpaces text)).outcome.orElse
          (readPredicate (skipSpaces text)).outcome) := by
  rw [readTerm]
  simp

theorem outcome_readNegation (text : List Char) :
    (readNegation text).outcome =
      match afterNegation text with
      | some rest => (readTerm rest).outcome.bind fun expr rest => .found (.not expr) rest
      | none => .refused := by
  rw [readNegation]
  split <;> rename_i read <;> simp only [read]
  · simp
  · rfl

theorem outcome_readGroup_cons (inner : List Char) :
    (readGroup ('(' :: inner)).outcome =
      (readDisjunction inner).outcome.bind fun expr rest => .closed (.group expr) rest := by
  rw [readGroup]
  cases readDisjunction inner with
  | found expr rest shorter =>
      simp only [Reading.outcome_found, Outcome.found_bind, Outcome.closed]
      split
      · rename_i read
        simp only [read, Reading.outcome_found]
      · split <;> simp_all
  | refused => rfl
  | aborted => rfl

theorem outcome_readGroup_other {text : List Char} (different : ∀ inner, text ≠ '(' :: inner) :
    (readGroup text).outcome = .refused := by
  unfold readGroup
  split
  · rename_i inner
    exact absurd rfl (different inner)
  · rfl

theorem outcome_readConjunction (text : List Char) :
    (readConjunction text).outcome =
      (readTerm text).outcome.bind fun first rest => (readAnds first rest).outcome := by
  rw [readConjunction]
  cases readTerm text with
  | found first rest shorter =>
      simp only [Reading.outcome_found, Outcome.found_bind]
      cases readAnds first rest <;> rfl
  | refused => rfl
  | aborted => rfl

theorem outcome_readAnds (left : Expr) (text : List Char) :
    (readAnds left text).outcome =
      match afterAnd text with
      | none => .found left text
      | some next =>
        match (readTerm next).outcome with
        | .found right rest => (readAnds (.and left right) rest).outcome
        | .refused => .found left text
        | .aborted => .aborted := by
  rw [readAnds]
  split <;> rename_i read <;> simp only [read]
  · rfl
  · rename_i next
    cases readTerm next with
    | found right rest shorter => simp
    | refused => rfl
    | aborted => rfl

theorem outcome_readDisjunction (text : List Char) :
    (readDisjunction text).outcome =
      (readConjunction text).outcome.bind fun first rest => (readOrs first rest).outcome := by
  rw [readDisjunction]
  cases readConjunction text with
  | found first rest shorter =>
      simp only [Reading.outcome_found, Outcome.found_bind]
      cases readOrs first rest <;> rfl
  | refused => rfl
  | aborted => rfl

theorem outcome_readOrs (left : Expr) (text : List Char) :
    (readOrs left text).outcome =
      match afterOr text with
      | none => .found left text
      | some next =>
        match (readConjunction next).outcome with
        | .found right rest => (readOrs (.or left right) rest).outcome
        | .refused => .found left text
        | .aborted => .aborted := by
  rw [readOrs]
  split <;> rename_i read <;> simp only [read]
  · rfl
  · rename_i next
    cases readConjunction next with
    | found right rest shorter => simp
    | refused => rfl
    | aborted => rfl

end SeriesQuery.Filter
