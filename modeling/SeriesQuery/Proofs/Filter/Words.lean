import SeriesQuery.Filter.Reader
/-!
The words of a filter as concatenations: blanks, runs and keywords are a written part followed by
the rest, and a keyword is settled by the written part alone where no key character follows.
-/
namespace SeriesQuery.Filter

open Text

/-! Classes of characters -/

/-- The characters that a filter gives a meaning of their own. -/
def marks : List Char :=
  ['(', ')', ',', '"', '\'', '=', '!', '<', '>', '&', '|', '~', ' ', '\t', '\r', '\n']

theorem isBareChar_of_mem_marks {c : Char} (mark : c ∈ marks) : isBareChar c = false := by
  have none : marks.any isBareChar = false := by decide
  simpa using List.any_eq_false.mp none c mark

theorem isBareChar_of_isKeyChar {c : Char} (key : isKeyChar c = true) : isBareChar c = true := by
  simp [isBareChar, key]

theorem isKeyChar_of_isBareChar_eq_false {c : Char} (plain : isBareChar c = false) :
    isKeyChar c = false := by
  cases key : isKeyChar c with
  | false => rfl
  | true => rw [isBareChar_of_isKeyChar key] at plain; exact plain

theorem isBareChar_of_isSpace {c : Char} (space : isSpace c = true) : isBareChar c = false := by
  apply isBareChar_of_mem_marks
  simp only [isSpace, Bool.or_eq_true, decide_eq_true_eq] at space
  rcases space with ((rfl | rfl) | rfl) | rfl <;> decide

theorem isSpace_of_isBareChar {c : Char} (bare : isBareChar c = true) : isSpace c = false := by
  cases space : isSpace c with
  | false => rfl
  | true => rw [isBareChar_of_isSpace space] at bare; exact bare.symm

theorem isAlphabetic_of_ascii {c : Char}
    (letter : 0x41 ≤ c.toNat ∧ c.toNat ≤ 0x5A ∨ 0x61 ≤ c.toNat ∧ c.toNat ≤ 0x7A) :
    isAlphabetic c = true := by
  have first : ∃ others, alphabetic = (0x41, 0x5A) :: (0x61, 0x7A) :: others := ⟨_, rfl⟩
  rcases first with ⟨others, table⟩
  rw [isAlphabetic, table, CodePoints.has, CodePoints.has]
  rw [if_neg (by omega)]
  split
  · rfl
  · rw [if_neg (by omega), if_pos (by omega)]

def isCapital (c : Char) : Bool := 'A' ≤ c && c ≤ 'Z'

theorem isKeyChar_of_isCapital {c : Char} (capital : isCapital c.toUpper = true) :
    isKeyChar c = true := by
  have letter : isAlphabetic c = true := by
    apply isAlphabetic_of_ascii
    by_cases lower : 'a'.val ≤ c.val ∧ c.val ≤ 'z'.val
    · exact .inr lower
    · have kept : c.toUpper = c := dif_neg lower
      rw [kept] at capital
      simp only [isCapital, Bool.and_eq_true, decide_eq_true_eq] at capital
      exact .inl capital
  simp [isKeyChar, isAlphanumeric, letter]

/-! Starts of texts -/

@[simp] theorem startsWith_nil (test : Char → Bool) : startsWith test [] = false := rfl

@[simp] theorem startsWith_cons (test : Char → Bool) (c : Char) (text : List Char) :
    startsWith test (c :: text) = test c := rfl

theorem startsWith_append {test : Char → Bool} {text : List Char} (written : text ≠ [])
    (rest : List Char) : startsWith test (text ++ rest) = startsWith test text := by
  cases text with
  | nil => exact absurd rfl written
  | cons c tail => rfl

theorem startsWith_append_inner {test : Char → Bool} {text : List Char} (written : text ≠ [])
    (before rest : List Char) :
    startsWith test (before ++ (text ++ rest)) = startsWith test (before ++ text) := by
  rw [← List.append_assoc, startsWith_append (by simp [written])]

theorem startsWith_of_all {test : Char → Bool} {text : List Char} (written : text ≠ [])
    (passed : ∀ c ∈ text, test c = true) (rest : List Char) :
    startsWith test (text ++ rest) = true := by
  cases text with
  | nil => exact absurd rfl written
  | cons c tail => exact passed c List.mem_cons_self

theorem startsWith_mono {weak strong : Char → Bool} {text : List Char}
    (weaker : ∀ c, strong c = true → weak c = true) (fails : startsWith weak text = false) :
    startsWith strong text = false := by
  cases text with
  | nil => rfl
  | cons c tail =>
      cases strongly : strong c with
      | false => exact strongly
      | true => rw [startsWith_cons, weaker c strongly] at fails; cases fails

theorem not_key_of_not_bare {text : List Char} (ends : startsWith isBareChar text = false) :
    startsWith isKeyChar text = false :=
  startsWith_mono (fun _ => isBareChar_of_isKeyChar) ends

/-! Runs -/

theorem dropWhile_run {test : Char → Bool} {run rest : List Char}
    (passed : ∀ c ∈ run, test c = true) (ends : startsWith test rest = false) :
    (run ++ rest).dropWhile test = rest := by
  rw [List.dropWhile_append_of_pos passed]
  cases rest with
  | nil => rfl
  | cons c tail => simp [show test c = false from ends]

theorem takeWhile_run {test : Char → Bool} {run rest : List Char}
    (passed : ∀ c ∈ run, test c = true) (ends : startsWith test rest = false) :
    (run ++ rest).takeWhile test = run := by
  rw [List.takeWhile_append_of_pos passed]
  cases rest with
  | nil => simp
  | cons c tail => simp [show test c = false from ends]

theorem startsWith_dropWhile (test : Char → Bool) (text : List Char) :
    startsWith test (text.dropWhile test) = false := by
  induction text with
  | nil => rfl
  | cons c tail ih =>
      cases passed : test c with
      | false => simp [passed]
      | true => simpa [List.dropWhile_cons, passed] using ih

/-- A text is a run and what comes after it. -/
theorem exists_run (test : Char → Bool) (text : List Char) :
    ∃ run, (∀ c ∈ run, test c = true) ∧ text = run ++ text.dropWhile test :=
  ⟨text.takeWhile test, List.all_eq_true.mp List.all_takeWhile,
    List.takeWhile_append_dropWhile.symm⟩

/-- A text that starts with a run is a run that is not empty and what comes after it. -/
theorem exists_filled_run {test : Char → Bool} {text : List Char}
    (starts : startsWith test text = true) :
    ∃ run, run ≠ [] ∧ (∀ c ∈ run, test c = true) ∧ text = run ++ text.dropWhile test := by
  rcases exists_run test text with ⟨run, passed, split⟩
  refine ⟨run, ?_, passed, split⟩
  intro nothing
  rw [split, nothing, List.nil_append, startsWith_dropWhile] at starts
  cases starts

theorem afterRun_eq_some_iff {test : Char → Bool} {text rest : List Char} :
    afterRun test text = some rest ↔
      ∃ run, run ≠ [] ∧ (∀ c ∈ run, test c = true) ∧ startsWith test rest = false ∧
        text = run ++ rest := by
  constructor
  · intro read
    rw [afterRun] at read
    split at read
    · rename_i starts
      cases read
      rcases exists_filled_run starts with ⟨run, written, passed, split⟩
      exact ⟨run, written, passed, startsWith_dropWhile test text, split⟩
    · cases read
  · intro parts
    rcases parts with ⟨run, written, passed, ends, rfl⟩
    rw [afterRun, if_pos (startsWith_of_all written passed rest), dropWhile_run passed ends]

theorem afterRun_eq_none {test : Char → Bool} {text : List Char}
    (ends : startsWith test text = false) : afterRun test text = none := by
  simp [afterRun, ends]

/-! Blanks -/

def Spaces (text : List Char) : Prop := ∀ c ∈ text, isSpace c = true

theorem spaces_nil : Spaces [] := by
  simp [Spaces]

theorem spaces_single : Spaces [' '] := by
  simp [Spaces, isSpace]

theorem skipSpaces_append {spaces : List Char} (blank : Spaces spaces) (rest : List Char) :
    skipSpaces (spaces ++ rest) = skipSpaces rest :=
  List.dropWhile_append_of_pos blank

theorem skipSpaces_of_start {text : List Char} (solid : startsWith isSpace text = false) :
    skipSpaces text = text :=
  @dropWhile_run isSpace [] text (by simp) solid

/-- The text after blanks, where no more of them follow. -/
theorem skipSpaces_solid {spaces text : List Char} (blank : Spaces spaces)
    (solid : startsWith isSpace text = false) : skipSpaces (spaces ++ text) = text := by
  rw [skipSpaces_append blank, skipSpaces_of_start solid]

@[simp] theorem startsWith_skipSpaces (text : List Char) :
    startsWith isSpace (skipSpaces text) = false :=
  startsWith_dropWhile isSpace text

@[simp] theorem skipSpaces_skipSpaces (text : List Char) :
    skipSpaces (skipSpaces text) = skipSpaces text :=
  skipSpaces_of_start (startsWith_skipSpaces text)

theorem exists_spaces (text : List Char) :
    ∃ spaces, Spaces spaces ∧ text = spaces ++ skipSpaces text :=
  exists_run isSpace text

theorem not_space_of_bare {text : List Char} (bare : startsWith isBareChar text = true) :
    startsWith isSpace text = false := by
  cases text with
  | nil => rfl
  | cons c tail => exact isSpace_of_isBareChar bare

theorem Spaces.not_bare {spaces rest : List Char} (blank : Spaces spaces)
    (ends : startsWith isBareChar rest = false) :
    startsWith isBareChar (spaces ++ rest) = false := by
  cases spaces with
  | nil => exact ends
  | cons c tail => exact isBareChar_of_isSpace (blank c List.mem_cons_self)

/-! Keywords -/

/-- The word is written in either case. -/
def Spelt (word written : List Char) : Prop := written.map Char.toUpper = word

theorem afterMark_eq_some_iff {mark text rest : List Char} :
    afterMark mark text = some rest ↔ text = mark ++ rest := by
  fun_induction afterMark mark text with
  | case1 rest' => simp [eq_comm]
  | case2 => simp
  | case3 c mark tail ih => simp [ih]
  | case4 m mark c tail different => simp [different]

theorem afterWord_eq_some_iff {word text rest : List Char} :
    afterWord word text = some rest ↔ ∃ written, Spelt word written ∧ text = written ++ rest := by
  induction word generalizing text with
  | nil => simp [afterWord, Spelt, eq_comm]
  | cons w word ih =>
      constructor
      · intro read
        cases text with
        | nil => simp [afterWord] at read
        | cons c tail =>
            by_cases same : c.toUpper = w
            · rw [afterWord, if_pos same, ih] at read
              rcases read with ⟨written, spelt, rfl⟩
              exact ⟨c :: written, by simp [Spelt, same, show _ = _ from spelt], rfl⟩
            · simp [afterWord, same] at read
      · intro parts
        rcases parts with ⟨written, spelt, rfl⟩
        cases written with
        | nil => simp [Spelt] at spelt
        | cons c tail =>
            obtain ⟨same, spelt⟩ := List.cons.inj spelt
            rw [List.cons_append, afterWord, if_pos same, ih]
            exact ⟨tail, spelt, rfl⟩

theorem afterKeyword_eq_some_iff {word text rest : List Char} :
    afterKeyword word text = some rest ↔
      ∃ written, Spelt word written ∧ startsWith isKeyChar rest = false ∧
        text = written ++ rest := by
  have shape : afterKeyword word text = some rest ↔
      afterWord word text = some rest ∧ startsWith isKeyChar rest = false := by
    rw [afterKeyword]
    cases afterWord word text with
    | none => simp
    | some after =>
        cases ends : startsWith isKeyChar after with
        | false =>
            simp only [ends, Bool.false_eq_true, if_false, Option.some.injEq, iff_self_and]
            intro same
            subst same
            exact ends
        | true =>
            simp only [ends, if_true, Option.some.injEq, reduceCtorEq, false_iff, not_and]
            intro same
            subst same
            simp [ends]
  rw [shape, afterWord_eq_some_iff]
  constructor
  · intro parts
    rcases parts with ⟨⟨written, spelt, rfl⟩, ends⟩
    exact ⟨written, spelt, ends, rfl⟩
  · intro parts
    rcases parts with ⟨written, spelt, ends, rfl⟩
    exact ⟨⟨written, spelt, rfl⟩, ends⟩

/-- No word starts with a letter other than its own. -/
theorem afterWord_cons_other {w c : Char} (different : c.toUpper ≠ w) (word text : List Char) :
    afterWord (w :: word) (c :: text) = none := by
  rw [afterWord, if_neg different]

def Capitals (word : List Char) : Prop := ∀ c ∈ word, isCapital c = true

def keywords : List (List Char) :=
  [wordAnd, wordOr, wordNot, wordIn, wordExists, wordContains]

theorem capitals {word : List Char} (known : word ∈ keywords) : Capitals word := by
  have all : ∀ word ∈ keywords, word.all isCapital = true := by decide
  exact List.all_eq_true.mp (all word known)

theorem Spelt.isKeyChar {word written : List Char} (spelt : Spelt word written)
    (capitals : Capitals word) : ∀ c ∈ written, isKeyChar c = true := by
  intro c member
  apply isKeyChar_of_isCapital
  apply capitals
  rw [← show _ = word from spelt]
  exact List.mem_map_of_mem member

theorem Spelt.ne_nil {word written : List Char} (spelt : Spelt word written) (letters : word ≠ []) :
    written ≠ [] := by
  intro same
  subst same
  exact letters (show _ = word from spelt).symm

theorem afterWord_append {word rest : List Char} (capitals : Capitals word)
    (ends : startsWith isKeyChar rest = false) (text : List Char) :
    afterWord word (text ++ rest) = (afterWord word text).map (· ++ rest) := by
  induction text generalizing word with
  | nil =>
      cases word with
      | nil => simp [afterWord]
      | cons w word =>
          cases rest with
          | nil => rfl
          | cons c tail =>
              have different : c.toUpper ≠ w := by
                intro same
                subst same
                rw [startsWith_cons, isKeyChar_of_isCapital (capitals _ List.mem_cons_self)] at ends
                cases ends
              simp [afterWord, different]
  | cons c text ih =>
      cases word with
      | nil => simp [afterWord]
      | cons w word =>
          by_cases same : c.toUpper = w
          · simp only [List.cons_append, afterWord, if_pos same]
            exact ih fun letter member => capitals letter (List.mem_cons_of_mem _ member)
          · simp [afterWord, same]

theorem afterKeyword_append {word rest : List Char} (capitals : Capitals word)
    (ends : startsWith isKeyChar rest = false) (text : List Char) :
    afterKeyword word (text ++ rest) = (afterKeyword word text).map (· ++ rest) := by
  unfold afterKeyword
  rw [afterWord_append capitals ends]
  cases afterWord word text with
  | none => rfl
  | some after =>
      have same : startsWith isKeyChar (after ++ rest) = startsWith isKeyChar after := by
        cases after with
        | nil => exact ends
        | cons c tail => rfl
      simp only [Option.map_some, same]
      split <;> rfl

/-- A key is a keyword only as a whole. -/
theorem afterKeyword_key {word key rest : List Char} (capitals : Capitals word)
    (passed : ∀ c ∈ key, isKeyChar c = true) (ends : startsWith isKeyChar rest = false)
    (other : ¬ Spelt word key) : afterKeyword word (key ++ rest) = none := by
  rw [afterKeyword_append capitals ends]
  cases read : afterKeyword word key with
  | none => rfl
  | some after =>
      rcases afterKeyword_eq_some_iff.mp read with ⟨written, spelt, stops, rfl⟩
      cases after with
      | nil => exact absurd (by simpa using spelt) other
      | cons c tail =>
          rw [startsWith_cons, passed c (by simp)] at stops
          cases stops

end SeriesQuery.Filter
