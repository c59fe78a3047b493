import SeriesQuery.Proofs.Filter.Decimals
import SeriesQuery.Proofs.Filter.Outcome
/-!
Literals and lists of literals as concatenations: what a literal is written as, and that the
readers find just these.
-/
namespace SeriesQuery.Filter

theorem outcome_readRun_eq_found_iff {test : Char → Bool} {text rest : List Char} {value : String} :
    (readRun test text).outcome = .found value rest ↔
      ∃ run, run ≠ [] ∧ (∀ c ∈ run, test c = true) ∧ startsWith test rest = false ∧
        text = run ++ rest ∧ value = String.ofList run := by
  rw [outcome_readRun]
  cases read : afterRun test text with
  | none =>
      simp only [reduceCtorEq, false_iff]
      intro parts
      rcases parts with ⟨run, written, passed, ends, split, -⟩
      have found := afterRun_eq_some_iff.mpr ⟨run, written, passed, ends, split⟩
      rw [read] at found
      cases found
  | some after =>
      rcases afterRun_eq_some_iff.mp read with ⟨run, written, passed, ends, rfl⟩
      simp only [takeWhile_run passed ends, Outcome.found.injEq]
      constructor
      · intro parts
        rcases parts with ⟨rfl, rfl⟩
        exact ⟨run, written, passed, ends, rfl, rfl⟩
      · intro parts
        rcases parts with ⟨other, otherWritten, otherPassed, otherEnds, split, rfl⟩
        have left : run = other := by
          rw [← takeWhile_run passed ends, split, takeWhile_run otherPassed otherEnds]
        subst left
        exact ⟨rfl, List.append_cancel_left split⟩

theorem outcome_readRun_eq_refused {test : Char → Bool} {text : List Char}
    (ends : startsWith test text = false) : (readRun test text).outcome = .refused := by
  rw [outcome_readRun, afterRun_eq_none ends]

theorem outcome_readQuoted_eq_found_iff {mark : Char} {text rest : List Char} {value : Literal} :
    (readQuoted mark text).outcome = .found value rest ↔
      ∃ content, mark ∉ content ∧ text = mark :: (content ++ mark :: rest) ∧
        value = .word (String.ofList content) := by
  constructor
  · intro read
    cases text with
    | nil => simp [readQuoted] at read
    | cons c inner =>
        rcases exists_run (· ≠ mark) inner with ⟨content, passed, split⟩
        have closes := startsWith_dropWhile (· ≠ mark) inner
        rw [outcome_readQuoted_cons] at read
        by_cases same : c = mark
        · rw [if_pos same] at read
          cases left : inner.dropWhile (· ≠ mark) with
          | nil =>
              rw [left] at read
              cases read
          | cons d tail =>
              rw [left] at split closes
              have closing : d = mark := by simpa using closes
              subst same closing
              rw [left, split, takeWhile_run passed closes] at read
              obtain ⟨rfl, rfl⟩ := Outcome.found.inj read
              refine ⟨content, ?_, by rw [split], rfl⟩
              intro member
              simpa using passed _ member
        · simp [same] at read
  · intro parts
    rcases parts with ⟨content, absent, rfl, rfl⟩
    have passed : ∀ c ∈ content, decide (c ≠ mark) = true := by
      intro c member
      rw [decide_eq_true_eq]
      intro same
      subst same
      exact absent member
    have closes : startsWith (· ≠ mark) (mark :: rest) = false := by simp
    rw [outcome_readQuoted_cons, if_pos rfl, takeWhile_run passed closes,
      dropWhile_run passed closes]

theorem outcome_readQuoted_other {mark : Char} {text : List Char}
    (other : startsWith (· = mark) text = false) : (readQuoted mark text).outcome = .refused := by
  cases text with
  | nil => rfl
  | cons c inner =>
      have different : c ≠ mark := by simpa using other
      rw [outcome_readQuoted_cons, if_neg different]

theorem not_quote_of_bare {text : List Char} (bare : startsWith isBareChar text = true)
    {mark : Char} (quote : mark ∈ marks) : startsWith (· = mark) text = false := by
  cases text with
  | nil => rfl
  | cons c tail =>
      rw [startsWith_cons, decide_eq_false_iff_not]
      intro same
      subst same
      rw [startsWith_cons, isBareChar_of_mem_marks quote] at bare
      cases bare

/-- A number that is scanned whole has its value. -/
theorem DecimalText.readScalar?_eq {decimal : Decimal} {written : List Char}
    (text : DecimalText decimal written) :
    readScalar? (String.ofList written) = some decimal.toFloat := by
  rw [readScalar?, String.toList_ofList, text.read?]
  rfl

theorem DecimalText.scanned {decimal : Decimal} {written : List Char}
    (text : DecimalText decimal written) : scanNumber written = .ended [] :=
  scanNumber_eq_ended_iff.mpr ⟨decimal, text⟩

theorem outcome_readNumber_eq_found_iff {text rest : List Char} {value : Literal} :
    (readNumber text).outcome = .found value rest ↔
      ∃ written decimal, DecimalText decimal written ∧ startsWith isBareChar rest = false ∧
        text = written ++ rest ∧
          value = .number decimal.toFloat (String.ofList written) := by
  rw [outcome_readNumber]
  constructor
  · intro read
    cases scanned : scanNumber text with
    | noNumber => simp [scanned] at read
    | missingDigit left => simp [scanned] at read
    | ended left =>
        simp only [scanned] at read
        split at read
        · rename_i free
          rcases exists_number scanned with ⟨written, -, rfl⟩
          rw [scanNumber_append free.2] at scanned
          cases inner : scanNumber written with
          | noNumber => simp [inner, Scan.extend] at scanned
          | missingDigit left => simp [inner, Scan.extend] at scanned
          | ended tail =>
              simp only [inner, Scan.extend, Scan.ended.injEq] at scanned
              rw [List.append_left_eq_self.mp scanned] at inner
              rcases scanNumber_eq_ended_iff.mp inner with ⟨decimal, text⟩
              simp only [List.length_append, Nat.add_sub_cancel, List.take_left,
                text.readScalar?_eq] at read
              obtain ⟨rfl, rfl⟩ := Outcome.found.inj read
              exact ⟨written, decimal, text, free.2, rfl, rfl⟩
        · cases read
  · intro parts
    rcases parts with ⟨written, decimal, text, ends, rfl, rfl⟩
    have scanned := text.scanned
    have nonempty : written ≠ [] := by
      intro same
      subst same
      cases scanned
    have shorter : rest.length < (written ++ rest).length := by
      have := List.length_pos_iff.mpr nonempty
      rw [List.length_append]
      omega
    rw [scanNumber_append ends, scanned]
    simp only [Scan.extend, List.nil_append, List.length_append, Nat.add_sub_cancel,
      List.take_left, text.readScalar?_eq]
    rw [← List.length_append, if_pos ⟨shorter, ends⟩]

/-- A bare word that is not itself a number. -/
structure Wordy (written : List Char) : Prop where
  nonempty : written ≠ []
  bare : Bare written
  unfinished : ∀ rest, scanNumber written ≠ .missingDigit rest
  other : scanNumber written ≠ .ended []

theorem outcome_readNumber_wordy {written rest : List Char} (wordy : Wordy written)
    (ends : startsWith isBareChar rest = false) :
    (readNumber (written ++ rest)).outcome = .refused := by
  rw [outcome_readNumber, scanNumber_append ends]
  cases scanned : scanNumber written with
  | noNumber => rfl
  | missingDigit left => exact absurd scanned (wordy.unfinished left)
  | ended left =>
      have more : left ≠ [] := by
        intro same
        subst same
        exact wordy.other scanned
      rcases exists_number scanned with ⟨number, -, rfl⟩
      have continues : startsWith isBareChar (left ++ rest) = true :=
        startsWith_of_all more (fun c member => wordy.bare c (List.mem_append_right _ member)) rest
      simp [Scan.extend, continues]

theorem wordy_of_readNumber {written rest : List Char} (nonempty : written ≠ [])
    (bare : Bare written) (ends : startsWith isBareChar rest = false)
    (refused : (readNumber (written ++ rest)).outcome = .refused) : Wordy written := by
  refine ⟨nonempty, bare, ?_, ?_⟩
  · intro left scanned
    rw [outcome_readNumber, scanNumber_append ends, scanned] at refused
    cases refused
  · intro scanned
    rcases scanNumber_eq_ended_iff.mp scanned with ⟨decimal, text⟩
    have found := outcome_readNumber_eq_found_iff.mpr ⟨written, decimal, text, ends, rfl, rfl⟩
    rw [refused] at found
    cases found

/-- A literal between marks. -/
inductive Quotes : List Char → Literal → Prop where
  | intro {mark : Char} {content : List Char} (known : mark = '"' ∨ mark = '\'')
      (absent : mark ∉ content) :
      Quotes (mark :: (content ++ [mark])) (.word (String.ofList content))

/-- A literal without marks: it lasts as long as bare characters follow. -/
inductive Plain : List Char → Literal → Prop where
  | number {written : List Char} {decimal : Decimal} (text : DecimalText decimal written) :
      Plain written (.number decimal.toFloat (String.ofList written))
  | word {written : List Char} (wordy : Wordy written) :
      Plain written (.word (String.ofList written))

theorem Plain.bare {written : List Char} {value : Literal} (plain : Plain written value) :
    Bare written := by
  cases plain with
  | number text =>
      rcases exists_number text.scanned with ⟨_, bare, split⟩
      rw [split, List.append_nil]
      exact bare
  | word wordy => exact wordy.bare

theorem Plain.ne_nil {written : List Char} {value : Literal} (plain : Plain written value) :
    written ≠ [] := by
  cases plain with
  | number text =>
      intro same
      subst same
      cases text.scanned
  | word wordy => exact wordy.nonempty

theorem outcome_readLiteral_eq_found_iff {text rest : List Char} {value : Literal} :
    (readLiteral text).outcome = .found value rest ↔
      ∃ written, text = written ++ rest ∧
        (Quotes written value ∨ Plain written value ∧ startsWith isBareChar rest = false) := by
  rw [outcome_readLiteral]
  constructor
  · intro read
    rcases Outcome.orElse_eq_found_iff.mp read with double | ⟨-, read⟩
    · rcases outcome_readQuoted_eq_found_iff.mp double with ⟨content, absent, rfl, rfl⟩
      exact ⟨_, by simp, .inl (.intro (.inl rfl) absent)⟩
    · rcases Outcome.orElse_eq_found_iff.mp read with single | ⟨-, read⟩
      · rcases outcome_readQuoted_eq_found_iff.mp single with ⟨content, absent, rfl, rfl⟩
        exact ⟨_, by simp, .inl (.intro (.inr rfl) absent)⟩
      · rcases Outcome.orElse_eq_found_iff.mp read with number | ⟨refused, read⟩
        · rcases outcome_readNumber_eq_found_iff.mp number with
            ⟨written, decimal, text, ends, rfl, rfl⟩
          exact ⟨written, rfl, .inr ⟨.number text, ends⟩⟩
        · rcases Outcome.bind_eq_found_iff.mp read with ⟨word, left, run, same⟩
          obtain ⟨rfl, rfl⟩ := Outcome.found.inj same
          rcases outcome_readRun_eq_found_iff.mp run with ⟨written, nonempty, bare, ends, rfl, rfl⟩
          exact ⟨written, rfl, .inr ⟨.word (wordy_of_readNumber nonempty bare ends refused), ends⟩⟩
  · intro parts
    rcases parts with ⟨written, rfl, ⟨known, absent⟩ | ⟨plain, ends⟩⟩
    · rename_i mark content
      have found : (readQuoted mark (mark :: (content ++ [mark]) ++ rest)).outcome =
          .found (.word (String.ofList content)) rest :=
        outcome_readQuoted_eq_found_iff.mpr ⟨content, absent, by simp, rfl⟩
      rcases known with rfl | rfl
      · rw [found, Outcome.found_orElse]
      · have other := @outcome_readQuoted_other '"' ('\'' :: (content ++ ['\'']) ++ rest) (by simp)
        rw [found, other, Outcome.refused_orElse, Outcome.found_orElse]
    · have bare := plain.bare.startsWith plain.ne_nil rest
      rw [outcome_readQuoted_other (not_quote_of_bare bare (by decide)),
        outcome_readQuoted_other (not_quote_of_bare bare (by decide)),
        Outcome.refused_orElse, Outcome.refused_orElse]
      cases plain with
      | number text =>
          rw [outcome_readNumber_eq_found_iff.mpr ⟨written, _, text, ends, rfl, rfl⟩,
            Outcome.found_orElse]
      | word wordy =>
          rw [outcome_readNumber_wordy wordy ends, Outcome.refused_orElse,
            outcome_readRun_eq_found_iff.mpr
              ⟨written, wordy.nonempty, wordy.bare, ends, rfl, rfl⟩,
            Outcome.found_bind]

/-- At a bare character something is read, or an exponent is missing its digits. -/
theorem outcome_readLiteral_ne_refused {text : List Char}
    (bare : startsWith isBareChar text = true) : (readLiteral text).outcome ≠ .refused := by
  rw [outcome_readLiteral]
  intro refused
  have run := (Outcome.orElse_eq_refused_iff.mp (Outcome.orElse_eq_refused_iff.mp
    (Outcome.orElse_eq_refused_iff.mp refused).2).2).2
  simp [outcome_readRun, afterRun, bare] at run

theorem outcome_readLiteral_eq_refused {text : List Char}
    (bare : startsWith isBareChar text = false)
    (double : startsWith (· = '"') text = false) (single : startsWith (· = '\'') text = false) :
    (readLiteral text).outcome = .refused := by
  have noNumber : (readNumber text).outcome = .refused := by
    have scanned := scanNumber_append bare []
    rw [List.nil_append] at scanned
    rw [outcome_readNumber, scanned]
    rfl
  rw [outcome_readLiteral, outcome_readQuoted_other double, outcome_readQuoted_other single,
    noNumber, outcome_readRun_eq_refused bare]
  rfl

/-! Lists -/

def Denotes (written : List Char) (value : Literal) : Prop :=
  Quotes written value ∨ Plain written value

theorem Denotes.ne_nil {written : List Char} {value : Literal} (denotes : Denotes written value) :
    written ≠ [] := by
  rcases denotes with ⟨-, -⟩ | plain
  · simp
  · exact plain.ne_nil

theorem Denotes.not_space {written : List Char} {value : Literal} (denotes : Denotes written value)
    (rest : List Char) : startsWith isSpace (written ++ rest) = false := by
  rcases denotes with ⟨rfl | rfl, -⟩ | plain
  · rfl
  · rfl
  · exact not_space_of_bare (plain.bare.startsWith plain.ne_nil rest)

/-- The items of a list after the first. -/
inductive Items : List Char → List Literal → Prop where
  | nil : Items [] []
  | cons {before after item items : List Char} {value : Literal} {values : List Literal}
      (blankBefore : Spaces before) (blankAfter : Spaces after) (denotes : Denotes item value)
      (others : Items items values) :
      Items (before ++ ',' :: (after ++ (item ++ items))) (value :: values)

theorem Items.not_bare {written rest : List Char} {values : List Literal}
    (items : Items written values) (ends : startsWith isBareChar rest = false) :
    startsWith isBareChar (written ++ rest) = false := by
  cases items with
  | nil => exact ends
  | cons blank =>
      rw [List.append_assoc]
      exact blank.not_bare (isBareChar_of_mem_marks (by decide))

theorem afterComma_eq_some_iff {text item : List Char} :
    afterComma text = some item ↔
      ∃ before after, Spaces before ∧ Spaces after ∧ startsWith isSpace item = false ∧
        text = before ++ ',' :: (after ++ item) := by
  rw [afterComma]
  constructor
  · intro read
    rcases exists_spaces text with ⟨before, blankBefore, split⟩
    split at read
    · rename_i tail comma
      cases read
      rcases exists_spaces tail with ⟨after, blankAfter, rest⟩
      exact ⟨before, after, blankBefore, blankAfter, startsWith_skipSpaces tail, by
        rw [← rest, ← comma, ← split]⟩
    · cases read
  · intro parts
    rcases parts with ⟨before, after, blankBefore, blankAfter, solid, rfl⟩
    rw [skipSpaces_solid blankBefore rfl]
    simp [skipSpaces_solid blankAfter solid]

theorem items_of_readMore {gathered values : List Literal} {text rest : List Char}
    (read : (readMore gathered text).outcome = .found values rest) :
    ∃ written more, text = written ++ rest ∧ Items written more ∧
      values = more.reverse ++ gathered := by
  induction size : text.length using Nat.strongRecOn generalizing text gathered with
  | ind _ ih =>
      subst size
      rw [outcome_readMore] at read
      split at read
      · obtain ⟨rfl, rfl⟩ := Outcome.found.inj read
        exact ⟨[], [], rfl, .nil, rfl⟩
      · rename_i item comma
        rcases afterComma_eq_some_iff.mp comma with
          ⟨before, after, blankBefore, blankAfter, -, split⟩
        split at read
        · rename_i value left literal
          rcases outcome_readLiteral_eq_found_iff.mp literal with ⟨word, split', denotes⟩
          have shorter : left.length < text.length := by
            rw [split, split']
            simp only [List.length_append, List.length_cons]
            omega
          rcases ih left.length shorter read rfl with ⟨written, more, rfl, items, rfl⟩
          have item : Denotes word value := denotes.imp id And.left
          refine ⟨_, value :: more, ?_, .cons blankBefore blankAfter item items, by simp⟩
          rw [split, split']
          simp
        · obtain ⟨rfl, rfl⟩ := Outcome.found.inj read
          exact ⟨[], [], rfl, .nil, rfl⟩
        · cases read

theorem outcome_readMore_items {written rest : List Char} {more : List Literal}
    (items : Items written more) (ends : startsWith isBareChar rest = false)
    (last : afterComma rest = none) (gathered : List Literal) :
    (readMore gathered (written ++ rest)).outcome = .found (more.reverse ++ gathered) rest := by
  induction items generalizing gathered with
  | nil =>
      rw [outcome_readMore, List.nil_append, last]
      rfl
  | cons blankBefore blankAfter denotes others ih =>
      rename_i before after item items value values
      have comma : afterComma (before ++ ',' :: (after ++ (item ++ items)) ++ rest) =
          some (item ++ (items ++ rest)) := by
        apply afterComma_eq_some_iff.mpr
        exact ⟨before, after, blankBefore, blankAfter, denotes.not_space _, by simp⟩
      have literal : (readLiteral (item ++ (items ++ rest))).outcome =
          .found value (items ++ rest) :=
        outcome_readLiteral_eq_found_iff.mpr
          ⟨item, rfl, denotes.imp id fun plain => ⟨plain, others.not_bare ends⟩⟩
      rw [outcome_readMore, comma]
      simp [literal, ih]

/-- Literals between parentheses. -/
inductive Lists : List Char → List Literal → Prop where
  | intro {before after first items : List Char} {value : Literal} {values : List Literal}
      (blankBefore : Spaces before) (denotes : Denotes first value) (others : Items items values)
      (blankAfter : Spaces after) :
      Lists ('(' :: (before ++ (first ++ (items ++ (after ++ [')']))))) (value :: values)

theorem closed_eq_found_iff {α : Type} {value result : α} {text rest : List Char} :
    Outcome.closed value text = .found result rest ↔
      result = value ∧ ∃ after, Spaces after ∧ text = after ++ ')' :: rest := by
  rw [Outcome.closed]
  constructor
  · intro read
    rcases exists_spaces text with ⟨after, blank, split⟩
    split at read
    · rename_i left closing
      obtain ⟨rfl, rfl⟩ := Outcome.found.inj read
      exact ⟨rfl, after, blank, by rw [← closing, ← split]⟩
    · cases read
  · intro parts
    rcases parts with ⟨rfl, after, blank, rfl⟩
    rw [skipSpaces_solid blank rfl]
    rfl

theorem outcome_readList_eq_found_iff {text rest : List Char} {values : List Literal} :
    (readList text).outcome = .found values rest ↔
      ∃ written, Lists written values ∧ text = written ++ rest := by
  constructor
  · intro read
    by_cases opened : ∃ inner, text = '(' :: inner
    · rcases opened with ⟨inner, rfl⟩
      rw [outcome_readList_cons] at read
      rcases Outcome.bind_eq_found_iff.mp read with ⟨value, left, literal, read⟩
      rcases Outcome.bind_eq_found_iff.mp read with ⟨reversed, tail, more, read⟩
      rcases closed_eq_found_iff.mp read with ⟨rfl, after, blankAfter, rfl⟩
      rcases exists_spaces inner with ⟨before, blankBefore, split⟩
      rcases outcome_readLiteral_eq_found_iff.mp literal with ⟨first, split', denotes⟩
      rcases items_of_readMore more with ⟨items, others, rfl, listed, rfl⟩
      have written := Lists.intro blankBefore (denotes.imp id And.left) listed blankAfter
      refine ⟨_, by simpa using written, ?_⟩
      rw [split, split']
      simp
    · rw [outcome_readList_other fun inner same => opened ⟨inner, same⟩] at read
      cases read
  · intro parts
    rcases parts with ⟨written, ⟨blankBefore, denotes, others, blankAfter⟩, rfl⟩
    rename_i before after first items value values
    have ends : startsWith isBareChar (after ++ ')' :: rest) = false :=
      blankAfter.not_bare (isBareChar_of_mem_marks (by decide))
    have last : afterComma (after ++ ')' :: rest) = none := by
      rw [afterComma, skipSpaces_solid blankAfter rfl]
      rfl
    have literal : (readLiteral (first ++ (items ++ (after ++ ')' :: rest)))).outcome =
        .found value (items ++ (after ++ ')' :: rest)) :=
      outcome_readLiteral_eq_found_iff.mpr
        ⟨first, rfl, denotes.imp id fun plain => ⟨plain, others.not_bare ends⟩⟩
    have closes : Outcome.closed (value :: values) (after ++ ')' :: rest) =
        .found (value :: values) rest :=
      closed_eq_found_iff.mpr ⟨rfl, after, blankAfter, rfl⟩
    have shape : '(' :: (before ++ (first ++ (items ++ (after ++ [')'])))) ++ rest =
        '(' :: (before ++ (first ++ (items ++ (after ++ ')' :: rest)))) := by
      simp
    rw [shape, outcome_readList_cons, skipSpaces_solid blankBefore (denotes.not_space _), literal,
      Outcome.found_bind, outcome_readMore_items others ends last, Outcome.found_bind]
    simpa using closes

end SeriesQuery.Filter
