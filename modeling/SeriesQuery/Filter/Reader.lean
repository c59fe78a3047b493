import SeriesQuery.Filter.Fault
import SeriesQuery.Text.Numeric
/-!
Reading a filter text.

A disjunction is a chain of conjunctions, a conjunction a chain of terms; a term is a negation, a
group or a predicate on one key. Alternatives are tried in order and the last one tells why all of
them failed, save that an exponent without digits ends the whole reading. Every successful reading
leaves a strictly shorter text, on which the recursion rests.
-/
namespace SeriesQuery.Filter

open Text

/-- Blanks between the words of a filter. -/
def isSpace (c : Char) : Bool := c = ' ' || c = '\t' || c = '\r' || c = '\n'

def isKeyChar (c : Char) : Bool := isAlphanumeric c || c = '_' || c = '.' || c = '-'

def isBareChar (c : Char) : Bool :=
  isKeyChar c || c = '/' || c = '+' || c = ':' || c = '*' || c = '@'

/-- A reading of `text`: a value and the shorter text after it, or where and why it stopped. -/
inductive Reading (α : Type) (text : List Char) where
  | found (value : α) (rest : List Char) (shorter : rest.length < text.length)
  | refused (sought : Sought) (rest : List Char)
  | aborted (rest : List Char)

namespace Reading

variable {α β : Type} {text : List Char}

def map (change : α → β) : Reading α text → Reading β text
  | found value rest shorter => found (change value) rest shorter
  | refused sought rest => refused sought rest
  | aborted rest => aborted rest

/-- The same reading seen from a text that is no shorter. -/
def widen {outer : List Char} (fits : text.length ≤ outer.length) : Reading α text → Reading α outer
  | found value rest shorter => found value rest (Nat.lt_of_lt_of_le shorter fits)
  | refused sought rest => refused sought rest
  | aborted rest => aborted rest

/-- The second reading where the first is refused. -/
def orElse (first : Reading α text) (second : Unit → Reading α text) : Reading α text :=
  match first with
  | refused _ _ => second ()
  | settled => settled

end Reading

/-- The end of a chain: what was gathered and the text left, which may be all of it. -/
inductive Chain (α : Type) (text : List Char) where
  | ended (value : α) (rest : List Char) (fits : rest.length ≤ text.length)
  | aborted (rest : List Char)

def skipSpaces (text : List Char) : List Char := text.dropWhile isSpace

theorem length_dropWhile_le (test : Char → Bool) (text : List Char) :
    (text.dropWhile test).length ≤ text.length :=
  (List.dropWhile_suffix test).length_le

theorem length_skipSpaces_le (text : List Char) : (skipSpaces text).length ≤ text.length :=
  length_dropWhile_le isSpace text

/-- The text after `mark`, if it starts with it. -/
def afterMark (mark : List Char) (text : List Char) : Option (List Char) :=
  match mark, text with
  | [], rest => some rest
  | _ :: _, [] => none
  | m :: mark, c :: rest => if c = m then afterMark mark rest else none

/-- The text after a word written in either case. -/
def afterWord (word : List Char) (text : List Char) : Option (List Char) :=
  match word, text with
  | [], rest => some rest
  | _ :: _, [] => none
  | w :: word, c :: rest => if c.toUpper = w then afterWord word rest else none

def startsWith (test : Char → Bool) : List Char → Bool
  | [] => false
  | c :: _ => test c

/-- The text after a keyword, which must not run on into a longer word. -/
def afterKeyword (word : List Char) (text : List Char) : Option (List Char) :=
  match afterWord word text with
  | some rest => if startsWith isKeyChar rest then none else some rest
  | none => none

theorem length_afterMark {mark text rest : List Char} (read : afterMark mark text = some rest) :
    rest.length + mark.length = text.length := by
  fun_induction afterMark mark text with
  | case1 => simp_all
  | case2 => simp at read
  | case3 _ _ _ ih => simp only [List.length_cons]; have := ih read; omega
  | case4 => simp at read

theorem length_afterWord {word text rest : List Char} (read : afterWord word text = some rest) :
    rest.length + word.length = text.length := by
  fun_induction afterWord word text with
  | case1 => simp_all
  | case2 => simp at read
  | case3 _ _ _ ih => simp only [List.length_cons]; have := ih read; omega
  | case4 => simp at read

theorem length_afterKeyword {word text rest : List Char}
    (read : afterKeyword word text = some rest) : rest.length + word.length = text.length := by
  unfold afterKeyword at read
  split at read
  · rename_i after found
    split at read
    · simp at read
    · cases read
      exact length_afterWord found
  · simp at read

def wordAnd : List Char := ['A', 'N', 'D']
def wordOr : List Char := ['O', 'R']
def wordNot : List Char := ['N', 'O', 'T']
def wordIn : List Char := ['I', 'N']
def wordExists : List Char := ['E', 'X', 'I', 'S', 'T', 'S']
def wordContains : List Char := ['C', 'O', 'N', 'T', 'A', 'I', 'N', 'S']

/-- What follows the longest run of characters that pass the test, if the run is not empty. -/
def afterRun (test : Char → Bool) (text : List Char) : Option (List Char) :=
  if startsWith test text then some (text.dropWhile test) else none

theorem length_afterRun {test : Char → Bool} {text rest : List Char}
    (read : afterRun test text = some rest) : rest.length < text.length := by
  unfold afterRun at read
  split at read
  · cases read
    cases text with
    | nil => simp_all [startsWith]
    | cons c tail =>
        rename_i starts
        simp only [startsWith] at starts
        have := length_dropWhile_le test tail
        simp only [List.dropWhile_cons, starts, if_true, List.length_cons]
        omega
  · simp at read

/-- A run of characters that pass the test. -/
def readRun (test : Char → Bool) (text : List Char) : Reading String text :=
  match read : afterRun test text with
  | some rest => .found (String.ofList (text.takeWhile test)) rest (length_afterRun read)
  | none => .refused .word text

/-! Numbers -/

/-- What follows the digits of a number, or where a digit of its exponent is missing. -/
inductive Scan where
  | ended (rest : List Char)
  | missingDigit (rest : List Char)
  | noNumber

def skipSign : List Char → List Char
  | '+' :: rest => rest
  | '-' :: rest => rest
  | text => text

def scanExponent : List Char → Scan
  | [] => .ended []
  | mark :: rest =>
    if mark = 'e' ∨ mark = 'E' then
      let digits := skipSign rest
      if startsWith Decimal.isDigit digits then .ended (digits.dropWhile Decimal.isDigit)
      else .missingDigit digits
    else .ended (mark :: rest)

/-- An optional sign, digits with an optional point, an optional exponent. -/
def scanNumber (text : List Char) : Scan :=
  let unsigned := skipSign text
  if startsWith Decimal.isDigit unsigned then
    match unsigned.dropWhile Decimal.isDigit with
    | '.' :: tail => scanExponent (tail.dropWhile Decimal.isDigit)
    | tail => scanExponent tail
  else
    match unsigned with
    | '.' :: tail =>
      if startsWith Decimal.isDigit tail then scanExponent (tail.dropWhile Decimal.isDigit)
      else .noNumber
    | _ => .noNumber

/-- A number that is not the start of a longer bare word. -/
def readNumber (text : List Char) : Reading Literal text :=
  match scanNumber text with
  | .ended rest =>
    if shorter : rest.length < text.length then
      if startsWith isBareChar rest then .refused .word text
      else
        let written := String.ofList (text.take (text.length - rest.length))
        match readScalar? written with
        | some value => .found (.number value written) rest shorter
        | none => .refused .word text
    else .refused .word text
  | .missingDigit rest => .aborted rest
  | .noNumber => .refused .word text

/-! Literals -/

/-- Text up to the closing mark; nothing inside is escaped. -/
def readQuoted (mark : Char) (text : List Char) : Reading Literal text :=
  match text with
  | [] => .refused .word []
  | c :: inner =>
    if c = mark then
      match read : inner.dropWhile (· ≠ mark) with
      | [] => .refused .word text
      | _ :: rest =>
        .found (.word (String.ofList (inner.takeWhile (· ≠ mark)))) rest (by
          have := length_dropWhile_le (· ≠ mark) inner
          simp only [read, List.length_cons] at this
          simp only [List.length_cons]
          omega)
    else .refused .word text

def readLiteral (text : List Char) : Reading Literal text :=
  (readQuoted '"' text).orElse fun _ =>
  (readQuoted '\'' text).orElse fun _ =>
  (readNumber text).orElse fun _ =>
  (readRun isBareChar text).map .word

/-- The text after a comma between blanks. -/
def afterComma (text : List Char) : Option (List Char) :=
  match skipSpaces text with
  | ',' :: rest => some (skipSpaces rest)
  | _ => none

theorem length_afterComma {text rest : List Char} (read : afterComma text = some rest) :
    rest.length < text.length := by
  unfold afterComma at read
  split at read
  · rename_i tail found
    cases read
    have outer := length_skipSpaces_le text
    have inner := length_skipSpaces_le tail
    rw [found, List.length_cons] at outer
    omega
  · simp at read

/-- The literals after the first one of a list, latest first. -/
def readMore (gathered : List Literal) (text : List Char) : Chain (List Literal) text :=
  match comma : afterComma text with
  | none => .ended gathered text (Nat.le_refl _)
  | some item =>
    match readLiteral item with
    | .found value rest shorter =>
      have smaller := Nat.lt_trans shorter (length_afterComma comma)
      match readMore (value :: gathered) rest with
      | .ended values rest fits => .ended values rest (Nat.le_trans fits (Nat.le_of_lt smaller))
      | .aborted rest => .aborted rest
    | .refused _ _ => .ended gathered text (Nat.le_refl _)
    | .aborted rest => .aborted rest
termination_by text.length

/-- Literals in parentheses, at least one. -/
def readList (text : List Char) : Reading (List Literal) text :=
  match text with
  | '(' :: inner =>
    match readLiteral (skipSpaces inner) with
    | .found first rest shorter =>
      match readMore [first] rest with
      | .ended values rest fits =>
        match read : skipSpaces rest with
        | ')' :: rest' => .found values.reverse rest' (by
            have spaces := length_skipSpaces_le rest
            have inside := length_skipSpaces_le inner
            simp only [read, List.length_cons] at spaces ⊢
            omega)
        | _ => .refused .operator text
      | .aborted rest => .aborted rest
    | .refused sought rest => .refused sought rest
    | .aborted rest => .aborted rest
  | _ => .refused .operator text

/-! Predicates -/

def symbolOperators : List (List Char × Operator) := [
  (['=', '~'], .search), (['!', '~'], .notSearch), (['!', '='], .notEqual), (['<', '>'], .notEqual),
  (['>', '='], .greaterOrEqual), (['<', '='], .lessOrEqual), (['=', '='], .equal), (['='], .equal),
  (['>'], .greater), (['<'], .less)]

def readSymbol (text : List Char) : List (List Char × Operator) → Option (Operator × List Char)
  | [] => none
  | (mark, operator) :: others =>
    match afterMark mark text with
    | some rest => some (operator, rest)
    | none => readSymbol text others

/-- An operator: a symbol, the longer ones first, or the word that asks for a part of the value. -/
def readOperator (text : List Char) : Except (Sought × List Char) (Operator × List Char) :=
  match readSymbol text symbolOperators with
  | some read => .ok read
  | none =>
    match afterWord wordContains text with
    | some rest =>
      if startsWith isKeyChar rest then .error (.wordEnd, rest) else .ok (.contains, rest)
    | none => .error (.operator, text)

theorem length_readSymbol {text rest : List Char} {operator : Operator}
    {symbols : List (List Char × Operator)}
    (read : readSymbol text symbols = some (operator, rest)) :
    rest.length ≤ text.length := by
  induction symbols with
  | nil => simp [readSymbol] at read
  | cons symbol others ih =>
      obtain ⟨mark, named⟩ := symbol
      unfold readSymbol at read
      split at read
      · rename_i after
        cases read
        have := length_afterMark after
        omega
      · exact ih read

theorem length_readOperator {text rest : List Char} {operator : Operator}
    (read : readOperator text = .ok (operator, rest)) : rest.length ≤ text.length := by
  unfold readOperator at read
  split at read
  · cases read
    rename_i symbol
    exact length_readSymbol symbol
  · split at read
    · rename_i after
      split at read
      · simp at read
      · cases read
        have := length_afterWord after
        omega
    · simp at read

/-- The text after `NOT` and at least one blank. -/
def afterNot (text : List Char) : Option (List Char) :=
  match afterKeyword wordNot text with
  | some rest => afterRun isSpace rest
  | none => none

theorem length_afterNot {text rest : List Char} (read : afterNot text = some rest) :
    rest.length < text.length := by
  unfold afterNot at read
  split at read
  · rename_i after found
    have := length_afterRun read
    have := length_afterKeyword found
    omega
  · simp at read

def readExists (key : String) (negated : Bool) (text : List Char) : Reading Expr text :=
  match read : afterKeyword wordExists text with
  | some rest => .found (.present key negated) rest (by
      have := length_afterKeyword read
      simp only [wordExists, List.length_cons] at this
      omega)
  | none => .refused .operator text

def readIn (key : String) (negated : Bool) (text : List Char) : Reading Expr text :=
  match read : afterKeyword wordIn text with
  | some rest => ((readList (skipSpaces rest)).map (Expr.oneOf key · negated)).widen (by
      have := length_afterKeyword read
      have := length_skipSpaces_le rest
      omega)
  | none => .refused .operator text

def readNegated (test : (text : List Char) → Reading Expr text) (text : List Char) :
    Reading Expr text :=
  match read : afterNot text with
  | some rest => (test rest).widen (Nat.le_of_lt (length_afterNot read))
  | none => .refused .operator text

def readComparison (key : String) (text : List Char) : Reading Expr text :=
  match read : readOperator text with
  | .ok (operator, rest) =>
    ((readLiteral (skipSpaces rest)).map (Expr.comparison key operator)).widen (by
      have := length_readOperator read
      have := length_skipSpaces_le rest
      omega)
  | .error (sought, rest) => .refused sought rest

/-- What is said of a key. -/
def readTest (key : String) (text : List Char) : Reading Expr text :=
  (readNegated (readExists key true) text).orElse fun _ =>
  (readExists key false text).orElse fun _ =>
  (readNegated (readIn key true) text).orElse fun _ =>
  (readIn key false text).orElse fun _ =>
  readComparison key text

def readPredicate (text : List Char) : Reading Expr text :=
  match readRun isKeyChar text with
  | .found key rest shorter =>
    (readTest key (skipSpaces rest)).widen
      (Nat.le_trans (length_skipSpaces_le rest) (Nat.le_of_lt shorter))
  | .refused sought rest => .refused sought rest
  | .aborted rest => .aborted rest

/-! Chains -/

/-- The text after a connective, written as a symbol or as a word, and the blanks around it. -/
def afterConnective (symbol word text : List Char) : Option (List Char) :=
  match afterMark symbol (skipSpaces text) with
  | some rest => some (skipSpaces rest)
  | none => (afterKeyword word (skipSpaces text)).map skipSpaces

theorem length_afterConnective {symbol word text rest : List Char}
    (symbolic : symbol ≠ []) (wordy : word ≠ [])
    (read : afterConnective symbol word text = some rest) : rest.length < text.length := by
  have spaces := length_skipSpaces_le text
  have symbolLength := List.length_pos_iff.mpr symbolic
  have wordLength := List.length_pos_iff.mpr wordy
  unfold afterConnective at read
  split at read
  · rename_i after found
    cases read
    have := length_skipSpaces_le after
    have := length_afterMark found
    omega
  · obtain ⟨after, found, rfl⟩ := Option.map_eq_some_iff.mp read
    have := length_skipSpaces_le after
    have := length_afterKeyword found
    omega

def afterAnd (text : List Char) : Option (List Char) := afterConnective ['&', '&'] wordAnd text

def afterOr (text : List Char) : Option (List Char) := afterConnective ['|', '|'] wordOr text

theorem length_afterAnd {text rest : List Char} (read : afterAnd text = some rest) :
    rest.length < text.length :=
  length_afterConnective (by simp) (by simp [wordAnd]) read

theorem length_afterOr {text rest : List Char} (read : afterOr text = some rest) :
    rest.length < text.length :=
  length_afterConnective (by simp) (by simp [wordOr]) read

/-- The text after `NOT` as a negation: blanks may follow, but need not. -/
def afterNegation (text : List Char) : Option (List Char) :=
  (afterKeyword wordNot text).map skipSpaces

theorem length_afterNegation {text rest : List Char} (read : afterNegation text = some rest) :
    rest.length < text.length := by
  obtain ⟨after, found, rfl⟩ := Option.map_eq_some_iff.mp read
  have := length_afterKeyword found
  have := length_skipSpaces_le after
  simp only [wordNot, List.length_cons] at *
  omega

/-- A chain continued from a later point of the text. -/
def Chain.widen {α : Type} {text outer : List Char} (fits : text.length ≤ outer.length) :
    Chain α text → Chain α outer
  | ended value rest inner => ended value rest (Nat.le_trans inner fits)
  | aborted rest => aborted rest

theorem lex_of_le {m n i j : Nat} (fits : m ≤ n) (lower : i < j) :
    Prod.Lex (· < ·) (· < ·) (m, i) (n, j) := by
  rcases Nat.lt_or_eq_of_le fits with less | rfl
  · exact .left _ _ less
  · exact .right _ lower

mutual

/-- A negation, a group or a predicate. -/
def readTerm (text : List Char) : Reading Expr text :=
  ((readNegation (skipSpaces text)).orElse fun _ =>
    (readGroup (skipSpaces text)).orElse fun _ =>
    readPredicate (skipSpaces text)).widen (length_skipSpaces_le text)
termination_by (text.length, 2)
decreasing_by all_goals exact lex_of_le (length_skipSpaces_le text) (by decide)

def readNegation (text : List Char) : Reading Expr text :=
  match read : afterNegation text with
  | some rest => ((readTerm rest).map .not).widen (Nat.le_of_lt (length_afterNegation read))
  | none => .refused .operator text
termination_by (text.length, 1)
decreasing_by exact .left _ _ (length_afterNegation read)

def readGroup (text : List Char) : Reading Expr text :=
  match text with
  | '(' :: inner =>
    match readDisjunction inner with
    | .found expr rest shorter =>
      match read : skipSpaces rest with
      | ')' :: rest' => .found (.group expr) rest' (by
          have spaces := length_skipSpaces_le rest
          simp only [read, List.length_cons] at spaces ⊢
          omega)
      | _ => .refused .operator text
    | .refused sought rest => .refused sought rest
    | .aborted rest => .aborted rest
  | _ => .refused .operator text
termination_by (text.length, 1)
decreasing_by exact .left _ _ (Nat.lt_succ_self _)

def readConjunction (text : List Char) : Reading Expr text :=
  match readTerm text with
  | .found first rest shorter =>
    match readAnds first rest with
    | .ended expr rest fits => .found expr rest (Nat.lt_of_le_of_lt fits shorter)
    | .aborted rest => .aborted rest
  | .refused sought rest => .refused sought rest
  | .aborted rest => .aborted rest
termination_by (text.length, 3)
decreasing_by
  · exact lex_of_le (Nat.le_refl _) (by decide)
  · exact .left _ _ shorter

/-- The terms joined to `left` by conjunction; a connective without a term after it is left
unread. -/
def readAnds (left : Expr) (text : List Char) : Chain Expr text :=
  match read : afterAnd text with
  | none => .ended left text (Nat.le_refl _)
  | some next =>
    match readTerm next with
    | .found right rest shorter =>
      (readAnds (.and left right) rest).widen
        (Nat.le_of_lt (Nat.lt_trans shorter (length_afterAnd read)))
    | .refused _ _ => .ended left text (Nat.le_refl _)
    | .aborted rest => .aborted rest
termination_by (text.length, 0)
decreasing_by
  · exact .left _ _ (length_afterAnd read)
  · exact .left _ _ (Nat.lt_trans shorter (length_afterAnd read))

def readDisjunction (text : List Char) : Reading Expr text :=
  match readConjunction text with
  | .found first rest shorter =>
    match readOrs first rest with
    | .ended expr rest fits => .found expr rest (Nat.lt_of_le_of_lt fits shorter)
    | .aborted rest => .aborted rest
  | .refused sought rest => .refused sought rest
  | .aborted rest => .aborted rest
termination_by (text.length, 4)
decreasing_by
  · exact lex_of_le (Nat.le_refl _) (by decide)
  · exact .left _ _ shorter

/-- The conjunctions joined to `left` by disjunction. -/
def readOrs (left : Expr) (text : List Char) : Chain Expr text :=
  match read : afterOr text with
  | none => .ended left text (Nat.le_refl _)
  | some next =>
    match readConjunction next with
    | .found right rest shorter =>
      (readOrs (.or left right) rest).widen
        (Nat.le_of_lt (Nat.lt_trans shorter (length_afterOr read)))
    | .refused _ _ => .ended left text (Nat.le_refl _)
    | .aborted rest => .aborted rest
termination_by (text.length, 0)
decreasing_by
  · exact .left _ _ (length_afterOr read)
  · exact .left _ _ (Nat.lt_trans shorter (length_afterOr read))

end

/-- Reads a whole filter; blanks around it are dropped and the empty text is the filter of all. -/
def readExpr (text : String) : Except Fault Expr :=
  match trimmed text.toList with
  | [] => .ok .all
  | bare =>
    match readDisjunction bare with
    | .found expr rest _ =>
      match trimmed rest with
      | [] => .ok expr
      | left => .error (.leftOver (String.ofList left))
    | .refused sought rest => .error (.unreadable (String.ofList bare) sought rest)
    | .aborted rest => .error (.unreadable (String.ofList bare) .digit rest)

end SeriesQuery.Filter
