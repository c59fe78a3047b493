import SeriesQuery.Proofs.Double.Decimals
import SeriesQuery.Proofs.Filter.Composition
import SeriesQuery.Proofs.Filter.NormalForm
import SeriesQuery.Proofs.Filter.RoundTrip
import SeriesQuery.Proofs.Results
/-!
How the tests of a filter agree with each other. Main statement: negated tests are the complements
of plain ones, a list stands for its equalities, equality with a number is where the orderings
meet, and a filter looks at no other labels than it names.
-/
namespace SeriesQuery.Filter

namespace Expr

/-- What the compiled expression says of a label set, if the expression compiles. -/
def answer (expr : Expr) (patterns : PatternEngine) (labels : Labels) : Except Fault Bool :=
  (compile patterns expr).map (·.decide labels)

/-- Whether the expression compiles and accepts the labels. -/
def Holds (expr : Expr) (patterns : PatternEngine) (labels : Labels) : Prop :=
  expr.answer patterns labels = .ok true

def ownKey? : Expr → Option String
  | comparison key _ _ => some key
  | oneOf key _ _ => some key
  | present key _ => some key
  | _ => none

/-- The labels that an expression names. -/
def keys (expr : Expr) : List String := expr.nodes.filterMap ownKey?

@[simp] theorem keys_and (left right : Expr) : (and left right).keys = left.keys ++ right.keys :=
  List.filterMap_append

@[simp] theorem keys_or (left right : Expr) : (or left right).keys = left.keys ++ right.keys :=
  List.filterMap_append

end Expr

/-- The operators that tell how a number lies to another one. -/
def orderings : List Operator := [.less, .equal, .greater]

/-- The operators that a number can be on the right of. -/
def comparisons : List Operator := [.less, .lessOrEqual, .equal, .greaterOrEqual, .greater]

/-- How the tests of one label relate to each other on a label set. -/
structure Agree (patterns : PatternEngine) (key : String) (labels : Labels) : Prop where
  notEqual : ∀ value, (Expr.comparison key .notEqual value).answer patterns labels =
    ((Expr.comparison key .equal value).answer patterns labels).map (!·)
  notSearch : ∀ value, (Expr.comparison key .notSearch value).answer patterns labels =
    ((Expr.comparison key .search value).answer patterns labels).map (!·)
  notOneOf : ∀ values, (Expr.oneOf key values true).answer patterns labels =
    ((Expr.oneOf key values false).answer patterns labels).map (!·)
  absent : (Expr.present key true).answer patterns labels =
    ((Expr.present key false).answer patterns labels).map (!·)
  /-- Equality, lists and presence can be asked of any literal. -/
  settled :
    (∀ value, ∃ said, (Expr.comparison key .equal value).answer patterns labels = .ok said) ∧
    (∀ values, ∃ said, (Expr.oneOf key values false).answer patterns labels = .ok said) ∧
    ((Expr.present key false).Holds patterns labels ↔ (labels.get? key).isSome)
  /-- Searches find what the engine finds, where it takes the text for a pattern. -/
  search : ∀ value matcher, patterns.compile value.text = .ok matcher →
    (Expr.comparison key .search value).answer patterns labels =
      .ok ((labels.get? key).any matcher.isFoundIn)
  oneOf_iff : ∀ values, (Expr.oneOf key values false).Holds patterns labels ↔
    ∃ value ∈ values, (Expr.comparison key .equal value).Holds patterns labels
  lacking : labels.get? key = none →
    (∀ values, ¬ (Expr.oneOf key values false).Holds patterns labels) ∧
    ∀ operator, operator ≠ .notEqual → operator ≠ .notSearch →
      ∀ value, ¬ (Expr.comparison key operator value).Holds patterns labels

/-- What the label of a key denotes, if there is one and it denotes anything. -/
def numberAt? (key : String) (labels : Labels) : Option Float :=
  (labels.get? key).bind labelNumber?

/-- Whether the label of a key denotes a number. -/
def Numeric (key : String) (labels : Labels) : Prop :=
  ∃ number, numberAt? key labels = some number ∧ number.isNaN = false

/-- How the label of a key relates to a number in the eyes of the operators. -/
structure Ranks (patterns : PatternEngine) (key : String) (value : Literal) (labels : Labels) :
    Prop where
  settled : ∀ operator ∈ comparisons,
    ∃ said, (Expr.comparison key operator value).answer patterns labels = .ok said
  equal_iff : (Expr.comparison key .equal value).Holds patterns labels ↔
    (Expr.comparison key .lessOrEqual value).Holds patterns labels ∧
      (Expr.comparison key .greaterOrEqual value).Holds patterns labels
  one : Numeric key labels →
    ∃! operator, operator ∈ orderings ∧ (Expr.comparison key operator value).Holds patterns labels
  otherwise : ¬ Numeric key labels →
    ∀ operator ∈ orderings, ¬ (Expr.comparison key operator value).Holds patterns labels

/-! Tests of one label -/

theorem answer_eq {patterns : PatternEngine} {expr : Expr} {predicate : Predicate}
    (compiled : compile patterns expr = .ok predicate) {labels : Labels} :
    expr.answer patterns labels = .ok (predicate.decide labels) := by
  rw [Expr.answer, compiled]
  rfl

section Tests

variable (patterns : PatternEngine) (key : String) (labels : Labels) (value : Literal)
  (values : List Literal)

@[simp] theorem answer_equal : (Expr.comparison key .equal value).answer patterns labels =
    .ok ((labels.get? key).any value.equals) := by
  rw [answer_eq rfl]
  exact congrArg Except.ok (Bool.bne_false _)

@[simp] theorem answer_oneOf : (Expr.oneOf key values false).answer patterns labels =
    .ok ((labels.get? key).any fun label => values.any (·.equals label)) := by
  rw [answer_eq rfl]
  exact congrArg Except.ok (Bool.bne_false _)

theorem answer_notEqual : (Expr.comparison key .notEqual value).answer patterns labels =
    ((Expr.comparison key .equal value).answer patterns labels).map (!·) := by
  rw [answer_equal, answer_eq rfl]
  exact congrArg Except.ok (Bool.bne_true _)

theorem answer_notOneOf : (Expr.oneOf key values true).answer patterns labels =
    ((Expr.oneOf key values false).answer patterns labels).map (!·) := by
  rw [answer_oneOf, answer_eq rfl]
  exact congrArg Except.ok (Bool.bne_true _)

@[simp] theorem answer_present (negated : Bool) :
    (Expr.present key negated).answer patterns labels = .ok (labels.contains key != negated) := by
  rw [answer_eq rfl]
  rfl

theorem answer_absent : (Expr.present key true).answer patterns labels =
    ((Expr.present key false).answer patterns labels).map (!·) := by
  simp [Except.map]

theorem compile_search {operator : Operator} (searches : operator ∈ [.search, .notSearch]) :
    compile patterns (.comparison key operator value) =
      match patterns.compile value.text with
      | .ok pattern => .ok (.matchesPattern key pattern (operator = .notSearch))
      | .error reason => .error (.badPattern key reason) := by
  rcases List.mem_pair.mp searches with rfl | rfl <;> rfl

theorem compile_ordering {operator : Operator} (numeric : operator.isNumeric = true) :
    compile patterns (.comparison key operator value) =
      match value.number? with
      | some bound => .ok (.compares key operator bound)
      | none => .error (.notNumeric key operator value) := by
  cases operator with
  | greater | greaterOrEqual | less | lessOrEqual => rfl
  | _ => cases numeric

/-- Both searches compile to the same pattern, or neither does. -/
theorem answer_notSearch : (Expr.comparison key .notSearch value).answer patterns labels =
    ((Expr.comparison key .search value).answer patterns labels).map (!·) := by
  rw [Expr.answer, Expr.answer, compile_search patterns key value (by decide),
    compile_search patterns key value (by decide)]
  cases patterns.compile value.text with
  | error reason => rfl
  | ok pattern => simp [Except.map, Predicate.decide]

theorem answer_search {matcher : Matcher} (compiled : patterns.compile value.text = .ok matcher) :
    (Expr.comparison key .search value).answer patterns labels =
      .ok ((labels.get? key).any matcher.isFoundIn) := by
  rw [Expr.answer, compile_search patterns key value (by decide), compiled]
  exact congrArg Except.ok (Bool.bne_false _)

theorem oneOf_holds_iff : (Expr.oneOf key values false).Holds patterns labels ↔
    ∃ value ∈ values, (Expr.comparison key .equal value).Holds patterns labels := by
  simp only [Expr.Holds, answer_oneOf, answer_equal, Except.ok.injEq]
  cases labels.get? key with
  | none => simp
  | some label => simp

theorem answer_ordering {operator : Operator} (numeric : operator.isNumeric = true) {bound : Float}
    (denotes : value.number? = some bound) :
    (Expr.comparison key operator value).answer patterns labels =
      .ok ((numberAt? key labels).any fun number => operator.compares number bound) := by
  have compiled := compile_ordering patterns key value numeric
  rw [denotes] at compiled
  exact answer_eq compiled

/-- Tests that are not negated say nothing of labels that lack the key. -/
theorem not_holds_of_lacking {operator : Operator} (lacks : labels.get? key = none)
    (notEqual : operator ≠ .notEqual) (notSearch : operator ≠ .notSearch) :
    ¬ (Expr.comparison key operator value).Holds patterns labels := by
  cases operator with
  | notEqual => exact absurd rfl notEqual
  | notSearch => exact absurd rfl notSearch
  | equal | contains =>
      rw [Expr.Holds, answer_eq rfl]
      simp [Predicate.decide, lacks]
  | search =>
      rw [Expr.Holds, Expr.answer, compile_search patterns key value (by decide)]
      cases patterns.compile value.text <;> simp [Except.map, Predicate.decide, lacks]
  | greater | greaterOrEqual | less | lessOrEqual =>
      rw [Expr.Holds, Expr.answer, compile_ordering patterns key value rfl]
      cases value.number? <;> simp [Except.map, Predicate.decide, lacks]

theorem agree : Agree patterns key labels where
  notEqual := answer_notEqual patterns key labels
  notSearch := answer_notSearch patterns key labels
  notOneOf := answer_notOneOf patterns key labels
  absent := answer_absent patterns key labels
  settled := by
    refine ⟨fun value => ⟨_, answer_equal patterns key labels value⟩,
      fun values => ⟨_, answer_oneOf patterns key labels values⟩, ?_⟩
    simp [Expr.Holds, SortedMap.contains]
  search := fun value _ compiled => answer_search patterns key labels value compiled
  oneOf_iff := oneOf_holds_iff patterns key labels
  lacking := by
    intro lacks
    refine ⟨fun values => ?_, fun operator notEqual notSearch value =>
      not_holds_of_lacking patterns key labels value lacks notEqual notSearch⟩
    simp [Expr.Holds, lacks]

end Tests

/-! Numbers -/

/-- A text that writes a decimal number denotes it as a label, too. -/
theorem labelNumber?_of_decimalText {written : String} {decimal : Decimal}
    (text : DecimalText decimal written.toList) :
    labelNumber? written = some decimal.toFloat := by
  have plain : Plain written.toList _ := .number text
  have bare := (solid_of_bare plain.bare plain.ne_nil).trimmed_eq
  rw [labelNumber?, Text.trim, bare, readScalar?, String.toList_ofList, text.read?]
  rfl

/-- The text of a number is no more than one of the labels that denote it. -/
theorem equals_number_iff {written label : String} {decimal : Decimal}
    (text : DecimalText decimal written.toList) :
    (Literal.number decimal.toFloat written).equals label = true ↔
      ∃ number, labelNumber? label = some number ∧ (number == decimal.toFloat) = true := by
  have itself : (decimal.toFloat == decimal.toFloat) = true :=
    Scalar.Ranked.beq_iff.mpr
      ⟨⟨Double.isNaN_toFloat decimal, Double.isNaN_toFloat decimal⟩, rfl⟩
  rw [Literal.equals, Bool.or_eq_true, beq_iff_eq]
  constructor
  · rintro (rfl | same)
    · exact ⟨_, labelNumber?_of_decimalText text, itself⟩
    · cases found : labelNumber? label with
      | none => simp [found] at same
      | some other => exact ⟨other, rfl, by simpa [found] using same⟩
  · rintro ⟨other, found, same⟩
    exact .inr (by simpa [found] using same)

section Orderings

open Scalar.Ranked

/-- The operators by the places that numbers have on their line. -/
def Operator.Places (operator : Operator) (number bound : Float) : Prop :=
  match operator with
  | .less => place number < place bound
  | .lessOrEqual => place number ≤ place bound
  | .equal => place number = place bound
  | .greaterOrEqual => place bound ≤ place number
  | .greater => place bound < place number
  | _ => False

theorem existsUnique_places (number bound : Float) :
    ∃! operator : Operator, operator ∈ orderings ∧ operator.Places number bound := by
  have only : ∀ {first : Operator}, first ∈ orderings → first.Places number bound →
      ∀ other, other ∈ orderings ∧ other.Places number bound → other = first := by
    rintro first member holds other ⟨member', holds'⟩
    simp only [orderings, List.mem_cons, List.not_mem_nil, or_false] at member member'
    rcases member with rfl | rfl | rfl <;> rcases member' with rfl | rfl | rfl <;>
      first | rfl | (simp only [Operator.Places] at holds holds'; order)
  rcases lt_trichotomy (place number) (place bound) with less | same | more
  · exact ⟨.less, ⟨by decide, less⟩, only (by decide) less⟩
  · exact ⟨.equal, ⟨by decide, same⟩, only (by decide) same⟩
  · exact ⟨.greater, ⟨by decide, more⟩, only (by decide) more⟩

theorem compares_iff {operator : Operator} (numeric : operator.isNumeric = true)
    {number bound : Float} (known : bound.isNaN = false) :
    operator.compares number bound = true ↔
      number.isNaN = false ∧ operator.Places number bound := by
  cases operator with
  | greater | less =>
      simp only [Operator.compares, Operator.Places, decide_eq_true_eq, Double.lt_iff, known,
        true_and, and_true]
      rfl
  | greaterOrEqual | lessOrEqual =>
      simp only [Operator.compares, Operator.Places, decide_eq_true_eq, Double.le_iff, known,
        true_and, and_true]
      rfl
  | _ => cases numeric

theorem comparisons_of_mem {operator : Operator} (member : operator ∈ orderings) :
    operator ∈ comparisons := by
  have all : ∀ operator ∈ orderings, operator ∈ comparisons := by decide
  exact all operator member

theorem isNumeric_of_mem {operator : Operator} (member : operator ∈ comparisons)
    (other : operator ≠ .equal) : operator.isNumeric = true := by
  have all : ∀ operator ∈ comparisons, operator ≠ .equal → operator.isNumeric = true := by decide
  exact all operator member other

variable {written : String} {decimal : Decimal} (text : DecimalText decimal written.toList)
  (patterns : PatternEngine) (key : String) (labels : Labels)

include text

/-- Whatever way it takes to compare, a test against a number holds by the places of the numbers. -/
theorem holds_iff_places {operator : Operator} (known : operator ∈ comparisons) :
    (Expr.comparison key operator (.number decimal.toFloat written)).Holds patterns labels ↔
      ∃ number, numberAt? key labels = some number ∧ number.isNaN = false ∧
        operator.Places number decimal.toFloat := by
  have bound := Double.isNaN_toFloat decimal
  by_cases same : operator = .equal
  · subst same
    rw [Expr.Holds, answer_equal, Except.ok.injEq, Option.any_eq_true]
    simp only [equals_number_iff text, beq_iff, numberAt?, Option.bind_eq_some_iff]
    constructor
    · rintro ⟨label, found, number, denotes, ⟨numbers, same⟩⟩
      exact ⟨number, ⟨label, found, denotes⟩, numbers.1, same⟩
    · rintro ⟨number, ⟨label, found, denotes⟩, known, same⟩
      exact ⟨label, found, number, denotes, ⟨known, bound⟩, same⟩
  · have numeric := isNumeric_of_mem known same
    rw [Expr.Holds, answer_ordering patterns key labels _ numeric rfl, Except.ok.injEq,
      Option.any_eq_true]
    simp only [compares_iff numeric bound]

theorem ranks : Ranks patterns key (.number decimal.toFloat written) labels where
  settled := by
    intro operator known
    by_cases same : operator = .equal
    · subst same
      exact ⟨_, answer_equal patterns key labels _⟩
    · exact ⟨_, answer_ordering patterns key labels _ (isNumeric_of_mem known same) rfl⟩
  equal_iff := by
    simp only [holds_iff_places text patterns key labels (by decide : Operator.equal ∈ comparisons),
      holds_iff_places text patterns key labels (by decide : Operator.lessOrEqual ∈ comparisons),
      holds_iff_places text patterns key labels (by decide : Operator.greaterOrEqual ∈ comparisons)]
    constructor
    · rintro ⟨number, denotes, known, same⟩
      exact ⟨⟨number, denotes, known, same.le⟩, ⟨number, denotes, known, same.ge⟩⟩
    · rintro ⟨⟨number, denotes, known, low⟩, ⟨other, denotes', -, high⟩⟩
      cases denotes.symm.trans denotes'
      exact ⟨number, denotes, known, le_antisymm low high⟩
  one := by
    rintro ⟨number, denotes, known⟩
    have holds {operator : Operator} (member : operator ∈ orderings) :
        (Expr.comparison key operator (.number decimal.toFloat written)).Holds patterns labels ↔
          operator.Places number decimal.toFloat := by
      rw [holds_iff_places text patterns key labels (comparisons_of_mem member)]
      constructor
      · rintro ⟨other, denotes', -, places⟩
        cases denotes.symm.trans denotes'
        exact places
      · exact fun places => ⟨number, denotes, known, places⟩
    rcases existsUnique_places number decimal.toFloat with ⟨operator, ⟨member, places⟩, only⟩
    exact ⟨operator, ⟨member, (holds member).mpr places⟩, fun other ⟨member', said⟩ =>
      only other ⟨member', (holds member').mp said⟩⟩
  otherwise := by
    intro absent operator member said
    rw [holds_iff_places text patterns key labels (comparisons_of_mem member)] at said
    rcases said with ⟨number, denotes, known, -⟩
    exact absent ⟨number, denotes, known⟩

end Orderings

/-! Whole filters -/

theorem regular_of_mem_literals {expr : Expr} (regular : ∀ node ∈ expr.nodes, node.Regular)
    {value : Literal} (member : value ∈ expr.literals) : value.Regular := by
  induction expr with
  | all | present => cases member
  | comparison key operator other =>
      rw [Expr.literals, List.mem_singleton] at member
      exact member ▸ (regular _ List.mem_cons_self).2
  | oneOf key values negated => exact (regular _ List.mem_cons_self).2.2 value member
  | not inner ih | group inner ih =>
      exact ih (fun node held => regular node (List.mem_cons_of_mem _ held)) member
  | and left right ihLeft ihRight | or left right ihLeft ihRight =>
      rcases List.mem_append.mp member with member | member
      · exact ihLeft (fun node held => regular node
          (List.mem_cons_of_mem _ (List.mem_append_left _ held))) member
      · exact ihRight (fun node held => regular node
          (List.mem_cons_of_mem _ (List.mem_append_right _ held))) member

theorem ranks_of_read {text : String} {expr : Expr} (read : readExpr text = .ok expr)
    {value : Float} {written : String} (member : .number value written ∈ expr.literals)
    (patterns : PatternEngine) (key : String) (labels : Labels) :
    Ranks patterns key (.number value written) labels := by
  have whole : expr ≠ .all := by
    rintro rfl
    cases member
  have regular := ((readExpr_regular read).2 whole).2
  rcases regular_of_mem_literals regular member with ⟨-, decimal, known, rfl⟩
  exact ranks known patterns key labels

variable {patterns : PatternEngine}

theorem decide_congr_comparison {key : String} {operator : Operator} {value : Literal}
    {predicate : Predicate}
    (compiled : compile patterns (.comparison key operator value) = .ok predicate)
    {labels other : Labels} (same : labels.get? key = other.get? key) :
    predicate.decide labels = predicate.decide other := by
  cases operator with
  | equal | notEqual | contains =>
      cases compiled
      simp [Predicate.decide, same]
  | search | notSearch =>
      rw [compile_search patterns key value (by decide)] at compiled
      split at compiled
      · cases compiled
        simp [Predicate.decide, same]
      · cases compiled
  | greater | greaterOrEqual | less | lessOrEqual =>
      rw [compile_ordering patterns key value rfl] at compiled
      split at compiled
      · cases compiled
        simp [Predicate.decide, same]
      · cases compiled

/-- Label sets that agree on the keys of an expression are decided alike. -/
theorem decide_congr {expr : Expr} {predicate : Predicate}
    (compiled : compile patterns expr = .ok predicate)
    {labels other : Labels} (same : ∀ key ∈ expr.keys, labels.get? key = other.get? key) :
    predicate.decide labels = predicate.decide other := by
  induction expr generalizing predicate with
  | comparison key operator value =>
      exact decide_congr_comparison compiled (same key List.mem_cons_self)
  | oneOf key values negated =>
      cases compiled
      simp [Predicate.decide, same key List.mem_cons_self]
  | present key negated =>
      cases compiled
      simp [Predicate.decide, SortedMap.contains, same key List.mem_cons_self]
  | not inner ih =>
      rcases bind_eq_ok_iff.mp compiled with ⟨part, done, whole⟩
      cases whole
      rw [Predicate.decide, Predicate.decide, ih done same]
  | and left right ihLeft ihRight =>
      rw [Expr.keys_and] at same
      rcases List.forall_mem_append.mp same with ⟨sameLeft, sameRight⟩
      rcases bind_eq_ok_iff.mp compiled with ⟨first, done, rest⟩
      rcases bind_eq_ok_iff.mp rest with ⟨second, done', whole⟩
      cases whole
      rw [Predicate.decide, Predicate.decide, ihLeft done sameLeft, ihRight done' sameRight]
  | or left right ihLeft ihRight =>
      rw [Expr.keys_or] at same
      rcases List.forall_mem_append.mp same with ⟨sameLeft, sameRight⟩
      rcases bind_eq_ok_iff.mp compiled with ⟨first, done, rest⟩
      rcases bind_eq_ok_iff.mp rest with ⟨second, done', whole⟩
      cases whole
      rw [Predicate.decide, Predicate.decide, ihLeft done sameLeft, ihRight done' sameRight]
  | group inner ih => exact ih compiled same
  | all =>
      cases compiled
      rfl

/-- The tests of a label agree with each other, those against a number that was read go by where
the number of the label lies to it, and filters look at the labels that they name. -/
theorem tests_cohere (patterns : PatternEngine) (key : String) (labels : Labels) :
    Agree patterns key labels ∧
    (∀ text expr value written, readExpr text = .ok expr → .number value written ∈ expr.literals →
      Ranks patterns key (.number value written) labels) ∧
    ∀ text filter, ofText patterns text = .ok filter →
      ∃ expr, readExpr text = .ok expr ∧ compile patterns expr = .ok filter.predicate ∧
        ∀ other : Labels, (∀ name ∈ expr.keys, labels.get? name = other.get? name) →
          filter.accepts labels = filter.accepts other := by
  refine ⟨agree patterns key labels, ?_, ?_⟩
  · intro text expr value written read member
    exact ranks_of_read read member patterns key labels
  · intro text filter read
    rcases ofText_eq_ok_iff.mp read with ⟨expr, expression, compiled, -⟩
    exact ⟨expr, expression, compiled, fun other same => decide_congr compiled same⟩

/-- Blanks around a number, and a label that the filter does not name. -/
def loaded (zone : String) : Labels := .ofList [("load", " 2.5\t"), ("zone", zone)]

/-- A number with a sign, and a list with one beyond all doubles. -/
def loadText : String := "load=+2.50e0||not(load in(x,1e999))"

theorem tests_cohere_loaded :
    ∃ expr filter, readExpr loadText = .ok expr ∧ ofText Pattern.engine loadText = .ok filter ∧
      .number 2.5 "+2.50e0" ∈ expr.literals ∧
      Ranks Pattern.engine "load" (.number 2.5 "+2.50e0") (loaded "eu") ∧
      (Expr.comparison "load" .equal (.number 2.5 "+2.50e0")).Holds Pattern.engine (loaded "eu") ∧
      filter.accepts (loaded "eu") = filter.accepts (loaded "us") := by
  have read : readExpr loadText =
      .ok (.or (.comparison "load" .equal (.number 2.5 "+2.50e0"))
        (.not (.group (.oneOf "load" [.word "x", .number Decimal.infinity "1e999"] false)))) :=
    readExpr_of_readBy (by decide +kernel)
  have whole : ofText Pattern.engine loadText =
      .ok ⟨.or (.equals "load" (.number 2.5 "+2.50e0") false)
        (.not (.oneOf "load" [.word "x", .number Decimal.infinity "1e999"] false)), loadText⟩ :=
    ofText_eq_ok_iff.mpr ⟨_, read, rfl, by decide⟩
  rcases tests_cohere Pattern.engine "load" (loaded "eu") with ⟨-, ranked, local'⟩
  rcases local' _ _ whole with ⟨expr, read', -, same⟩
  cases read.symm.trans read'
  have member : Literal.number 2.5 "+2.50e0" ∈ Expr.literals (.or
      (.comparison "load" .equal (.number 2.5 "+2.50e0"))
      (.not (.group (.oneOf "load" [.word "x", .number Decimal.infinity "1e999"] false)))) :=
    List.mem_cons_self
  refine ⟨_, _, read, whole, member, ranked _ _ _ _ read member, ?_, same (loaded "us") ?_⟩
  · rw [Expr.Holds, answer_equal]
    exact congrArg Except.ok (by decide)
  · decide

end SeriesQuery.Filter
