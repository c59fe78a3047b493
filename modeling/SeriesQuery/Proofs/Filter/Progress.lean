import Mathlib.Data.List.Basic
import SeriesQuery.Proofs.Filter.Ends
import SeriesQuery.Proofs.Filter.Texts
/-!
Progress of the readers. The grammar is written once more over a reader of terms that may give up,
with loops that give up where an item consumes nothing. Main statement: all that is read leaves a
shorter end of the text, a term asks for terms in shorter ends of its text only, and neither the
loops nor a bound on the depth of terms ever give up.
-/
namespace SeriesQuery.Filter

/-! Readers that may give up -/

/-- What a reader comes to, if it does not give up. -/
abbrev Attempt (α : Type) := Option (Outcome α)

namespace Attempt

variable {α β : Type}

/-- The second attempt where the first is refused. -/
def orElse (first second : Attempt α) : Attempt α :=
  match first with
  | some .refused => second
  | settled => settled

def andThen (first : Attempt α) (next : α → List Char → Attempt β) : Attempt β :=
  match first with
  | some (.found value rest) => next value rest
  | some .refused => some .refused
  | some .aborted => some .aborted
  | none => none

theorem orElse_some (first second : Outcome α) :
    orElse (some first) (some second) = some (first.orElse second) := by
  cases first <;> rfl

theorem andThen_some (first : Outcome α) (next : α → List Char → Outcome β) :
    andThen (some first) (fun value rest => some (next value rest)) = some (first.bind next) := by
  cases first <;> rfl

end Attempt

section Loops

variable {α β : Type}

/-- A reader as an attempt: it never gives up. -/
def attempted (read : (text : List Char) → Reading α text) (text : List Char) : Attempt α :=
  some (read text).outcome

/-- The reader that gives up on all but the shorter ends of a text. -/
def inside (outer : List Char) (read : List Char → Attempt α) (text : List Char) : Attempt α :=
  if ShorterEnd text outer then read text else none

/-- All that is found leaves a shorter end of the text. -/
def Progresses (read : List Char → Attempt α) : Prop :=
  ∀ text value rest, read text = some (.found value rest) → ShorterEnd rest text

/-- Items one after the other; the loop gives up at an item that consumes nothing. -/
def repeated (item : List Char → Attempt α) (join : β → α → β) (gathered : β)
    (text : List Char) : Attempt β :=
  match item text with
  | some (.found value rest) =>
    if rest.length < text.length then repeated item join (join gathered value) rest else none
  | some .refused => some (.found gathered text)
  | some .aborted => some .aborted
  | none => none
termination_by text.length

/-- An item behind what separates it from the one before. -/
def following (after : List Char → Option (List Char)) (item : List Char → Attempt α)
    (text : List Char) : Attempt α :=
  match after text with
  | some next => item next
  | none => some .refused

/-- An item behind a separator; the reader gives up at a separator that consumes nothing. -/
def parted (after : List Char → Option (List Char)) (item : List Char → Attempt α)
    (text : List Char) : Attempt α :=
  following after (fun next => if next.length < text.length then item next else none) text

end Loops

/-! The grammar over a reader of terms -/

def conjunctionBy (term : List Char → Attempt Expr) (text : List Char) : Attempt Expr :=
  (term text).andThen (repeated (following afterAnd term) .and)

def disjunctionBy (term : List Char → Attempt Expr) (text : List Char) : Attempt Expr :=
  (conjunctionBy term text).andThen (repeated (following afterOr (conjunctionBy term)) .or)

def negationBy (term : List Char → Attempt Expr) (text : List Char) : Attempt Expr :=
  match afterNegation text with
  | some next => (term next).andThen fun expr rest => some (.found (.not expr) rest)
  | none => some .refused

def groupBy (term : List Char → Attempt Expr) (text : List Char) : Attempt Expr :=
  match text with
  | '(' :: inner =>
    (disjunctionBy term inner).andThen fun expr rest => some (.closed (.group expr) rest)
  | _ => some .refused

def termBy (term : List Char → Attempt Expr) (text : List Char) : Attempt Expr :=
  (negationBy term (skipSpaces text)).orElse
    ((groupBy term (skipSpaces text)).orElse (some (readPredicate (skipSpaces text)).outcome))

def listBy (literal : List Char → Attempt Literal) (text : List Char) : Attempt (List Literal) :=
  match text with
  | '(' :: inner =>
    (literal (skipSpaces inner)).andThen fun first rest =>
      (repeated (parted afterComma literal) (fun gathered value => value :: gathered) [first]
        rest).andThen fun values rest => some (.closed values.reverse rest)
  | _ => some .refused

/-- The reader of terms that gives up where terms are nested deeper than the bound. -/
def termWithin : Nat → List Char → Attempt Expr
  | 0, _ => none
  | depth + 1, text => termBy (termWithin depth) text

namespace Level

/-- What a level of the grammar comes to over a reader of terms. -/
def readBy (term : List Char → Attempt Expr) : Level → List Char → Attempt Expr
  | .term, text => term text
  | conjunction, text => conjunctionBy term text
  | disjunction, text => disjunctionBy term text

end Level

/-! Nothing gives up -/

section Loops

variable {α β : Type} {after : List Char → Option (List Char)} {read : List Char → Outcome α}
  {join : β → α → β} {loop : β → List Char → Outcome β}

/-- The loop that may give up does not: every item consumes at least its separator. -/
theorem LoopsOver.repeated_eq (loops : LoopsOver after read join loop)
    (consumes : ∀ {text next}, after text = some next → ShorterEnd next text)
    (leaves : ∀ text, (read text).LeavesEnd text)
    {item : List Char → Attempt α} {text : List Char} (gathered : β)
    (answers : ∀ next, ShorterEnd next text → item next = some (read next)) :
    repeated (following after item) join gathered text = some (loop gathered text) := by
  induction size : text.length using Nat.strongRecOn generalizing text gathered with
  | ind _ ih =>
      subst size
      rw [repeated, loops, following]
      cases separator : after text with
      | none => rfl
      | some next =>
          have shorter := consumes separator
          have left := leaves next
          simp only [answers next shorter]
          cases found : read next with
          | found value rest =>
              rw [found] at left
              have behind := ShorterEnd.of_suffix left shorter
              simp only [if_pos behind.2]
              exact ih rest.length behind.2 (join gathered value)
                (fun other inside => answers other (inside.trans_suffix behind.1)) rfl
          | refused => rfl
          | aborted => rfl

end Loops

section Over

variable {term : List Char → Attempt Expr} {text : List Char}

theorem conjunctionBy_eq
    (answers : ∀ rest, rest <:+ text → term rest = some (Level.term.outcome rest)) :
    conjunctionBy term text = some (Level.conjunction.outcome text) := by
  have leaves := Level.term.leavesEnd text
  rw [conjunctionBy, answers text (List.suffix_refl text), Level.outcome, Level.outcome,
    outcome_readConjunction]
  rw [Level.outcome] at leaves
  cases read : (readTerm text).outcome with
  | found first rest =>
      rw [read] at leaves
      exact loopsOver_readAnds.repeated_eq afterAnd_shorter Level.term.leavesEnd first
        fun next inside => answers next (inside.1.trans leaves)
  | refused => rfl
  | aborted => rfl

theorem disjunctionBy_eq
    (answers : ∀ rest, rest <:+ text → term rest = some (Level.term.outcome rest)) :
    disjunctionBy term text = some (Level.disjunction.outcome text) := by
  have leaves := Level.conjunction.leavesEnd text
  rw [disjunctionBy, conjunctionBy_eq answers, Level.outcome, Level.outcome,
    outcome_readDisjunction]
  rw [Level.outcome] at leaves
  cases read : (readConjunction text).outcome with
  | found first rest =>
      rw [read] at leaves
      refine loopsOver_readOrs.repeated_eq afterOr_shorter Level.conjunction.leavesEnd first ?_
      intro next inside
      exact conjunctionBy_eq fun other suffix =>
        answers other (suffix.trans (inside.1.trans leaves))
  | refused => rfl
  | aborted => rfl

theorem termBy_eq
    (answers : ∀ rest, ShorterEnd rest text → term rest = some (Level.term.outcome rest)) :
    termBy term text = some (Level.term.outcome text) := by
  have fits := skipSpaces_suffix text
  have negation : negationBy term (skipSpaces text) =
      some (readNegation (skipSpaces text)).outcome := by
    rw [negationBy, outcome_readNegation]
    cases negation : afterNegation (skipSpaces text) with
    | none => rfl
    | some next =>
        simp only [answers next ((afterNegation_shorter negation).trans_suffix fits)]
        exact Attempt.andThen_some (readTerm next).outcome fun expr rest =>
          .found (Expr.not expr) rest
  have group : groupBy term (skipSpaces text) = some (readGroup (skipSpaces text)).outcome := by
    by_cases opened : ∃ inner, skipSpaces text = '(' :: inner
    · rcases opened with ⟨inner, split⟩
      have inside : ShorterEnd inner (skipSpaces text) :=
        split ▸ .of_append (List.cons_ne_nil '(' []) inner
      rw [split, outcome_readGroup_cons, groupBy, disjunctionBy_eq fun rest suffix =>
        answers rest ((ShorterEnd.of_suffix suffix inside).trans_suffix fits)]
      exact Attempt.andThen_some (readDisjunction inner).outcome fun expr rest =>
        .closed (Expr.group expr) rest
    · have other : ∀ inner, skipSpaces text ≠ '(' :: inner :=
        fun inner split => opened ⟨inner, split⟩
      rw [outcome_readGroup_other other]
      unfold groupBy
      split
      · rename_i inner split
        exact absurd split (other inner)
      · rfl
  rw [termBy, negation, group, Level.outcome, outcome_readTerm, Attempt.orElse_some,
    Attempt.orElse_some]

end Over

theorem termWithin_eq {depth : Nat} {text : List Char} (deep : text.length < depth) :
    termWithin depth text = some (Level.term.outcome text) := by
  induction depth generalizing text with
  | zero => exact absurd deep (Nat.not_lt_zero _)
  | succ depth ih =>
      rw [termWithin]
      refine termBy_eq fun rest shorter => ih ?_
      have := shorter.2
      omega

theorem readBy_termWithin {depth : Nat} {text : List Char} (deep : text.length < depth)
    (level : Level) : level.readBy (termWithin depth) text = some (level.outcome text) := by
  have answers (rest : List Char) (suffix : rest <:+ text) :
      termWithin depth rest = some (Level.term.outcome rest) :=
    termWithin_eq (Nat.lt_of_le_of_lt suffix.length_le deep)
  cases level with
  | term => exact answers text (List.suffix_refl text)
  | conjunction => exact conjunctionBy_eq answers
  | disjunction => exact disjunctionBy_eq answers

/-! Lists -/

theorem parted_eq_following {α : Type} {after : List Char → Option (List Char)}
    (consumes : ∀ {text next}, after text = some next → ShorterEnd next text)
    (item : List Char → Attempt α) : parted after item = following after item := by
  funext text
  rw [parted, following, following]
  cases separator : after text with
  | none => rfl
  | some next => exact if_pos (consumes separator).2

/-- Lists are read with no separator that would consume nothing. -/
theorem listBy_eq (text : List Char) :
    listBy (attempted readLiteral) text = attempted readList text := by
  by_cases opened : ∃ inner, text = '(' :: inner
  · rcases opened with ⟨inner, rfl⟩
    rw [listBy, attempted, attempted, outcome_readList_cons, parted_eq_following afterComma_shorter]
    cases (readLiteral (skipSpaces inner)).outcome with
    | found first rest =>
        simp only [Attempt.andThen, Outcome.found_bind]
        have each (next : List Char) (_ : ShorterEnd next rest) :
            attempted readLiteral next = some (readLiteral next).outcome := rfl
        have more := loopsOver_readMore.repeated_eq afterComma_shorter leavesEnd_readLiteral
          [first] each
        rw [more]
        exact Attempt.andThen_some (readMore [first] rest).outcome fun values rest =>
          .closed values.reverse rest
    | refused => rfl
    | aborted => rfl
  · rw [attempted, outcome_readList_other fun inner split => opened ⟨inner, split⟩]
    unfold listBy
    split
    · exact absurd ⟨_, rfl⟩ opened
    · rfl

/-! Progress -/

theorem progresses_of_leavesEnd {α : Type} {read : (text : List Char) → Reading α text}
    (leaves : ∀ text, (read text).outcome.LeavesEnd text) : Progresses (attempted read) := by
  intro text value rest found
  have left := leaves text
  rw [Option.some.inj found] at left
  exact ⟨left, Reading.length_lt (Option.some.inj found)⟩

theorem Progresses.following {α : Type} {after : List Char → Option (List Char)}
    {item : List Char → Attempt α} (progresses : Progresses item)
    (consumes : ∀ {text next}, after text = some next → ShorterEnd next text) :
    Progresses (following after item) := by
  intro text value rest found
  rw [Filter.following] at found
  split at found
  · rename_i next separator
    exact .of_suffix (progresses next value rest found).1 (consumes separator)
  · cases found

/--
Whatever is found leaves a shorter end of the text, with separators too. A term asks for no terms
but those in shorter ends of its text, so that no text is nested deeper than it is long, and no loop
meets an item that consumes nothing.
-/
theorem grammar_progresses :
    (∀ level : Level, Progresses fun text => some (level.outcome text)) ∧
    Progresses (attempted readGroup) ∧ Progresses (attempted readPredicate) ∧
    Progresses (attempted readList) ∧ Progresses (attempted readLiteral) ∧
    Progresses (following afterAnd (attempted readTerm)) ∧
    Progresses (following afterOr (attempted readConjunction)) ∧
    Progresses (following afterComma (attempted readLiteral)) ∧
    (∀ text, termBy (inside text (attempted readTerm)) text = attempted readTerm text) ∧
    (∀ text, listBy (attempted readLiteral) text = attempted readList text) ∧
    ∀ depth text, text.length < depth →
      ∀ level : Level, level.readBy (termWithin depth) text = some (level.outcome text) := by
  have term : Progresses (attempted readTerm) := progresses_of_leavesEnd Level.term.leavesEnd
  have conjunction : Progresses (attempted readConjunction) :=
    progresses_of_leavesEnd Level.conjunction.leavesEnd
  have disjunction : Progresses (attempted readDisjunction) :=
    progresses_of_leavesEnd Level.disjunction.leavesEnd
  have literal := progresses_of_leavesEnd leavesEnd_readLiteral
  refine ⟨?_, progresses_of_leavesEnd leavesEnd_readGroup,
    progresses_of_leavesEnd leavesEnd_readPredicate, progresses_of_leavesEnd leavesEnd_readList,
    literal, term.following afterAnd_shorter, conjunction.following afterOr_shorter,
    literal.following afterComma_shorter, ?_, listBy_eq,
    fun depth text deep => readBy_termWithin deep⟩
  · intro level
    cases level with
    | term => exact term
    | conjunction => exact conjunction
    | disjunction => exact disjunction
  · intro text
    exact termBy_eq fun rest shorter => if_pos shorter

/-- What is read to its end within a depth that no text of its length exceeds is what is read. -/
theorem readExpr_of_readBy {text : String} {expr : Expr}
    (read : Level.disjunction.readBy (termWithin ((Text.trimmed text.toList).length + 1))
      (Text.trimmed text.toList) = some (.found expr [])) : readExpr text = .ok expr := by
  rw [readBy_termWithin (Nat.lt_succ_self _)] at read
  have found := Option.some.inj read
  refine readExpr_eq_ok_iff_outcome.mpr (.inr ⟨fun nothing => ?_, [], found, rfl⟩)
  rw [nothing] at found
  exact absurd (Level.length_lt found) (Nat.lt_irrefl 0)

/-- Terms four deep: a negation, its group, the negation in it and the list below that. -/
def nested : List Char := "not(a=1 and not b in(c,'d'))".toList

theorem grammar_progresses_nested :
    nested.length < 29 ∧
    Level.disjunction.readBy (termWithin 29) nested =
      some (.found (.not (.group (.and (.comparison "a" .equal (.number 1 "1"))
        (.not (.oneOf "b" [.word "c", .word "d"] false))))) []) ∧
    Level.disjunction.readBy (termWithin 3) nested = none ∧
    termBy (inside nested (attempted readTerm)) nested = attempted readTerm nested := by
  rcases grammar_progresses with ⟨-, -, -, -, -, -, -, -, calls, -, bounded⟩
  have short : nested.length < 29 := by decide
  have read : Level.disjunction.readBy (termWithin 29) nested =
      some (.found (.not (.group (.and (.comparison "a" .equal (.number 1 "1"))
        (.not (.oneOf "b" [.word "c", .word "d"] false))))) []) := by
    decide +kernel
  exact ⟨short, read, by decide +kernel, calls nested⟩

end SeriesQuery.Filter
