import SeriesQuery.Filter.Reader
import SeriesQuery.Labels
import SeriesQuery.Pattern.Engine
/-!
Filters ready to be decided on label sets.

A missing label answers the negated tests with yes and every other test with no.
-/
namespace SeriesQuery

namespace Filter

inductive Predicate where
  | all
  | equals (key : String) (value : Literal) (negated : Bool)
  | compares (key : String) (operator : Operator) (bound : Float)
  | matchesPattern (key : String) (pattern : Matcher) (negated : Bool)
  | contains (key needle : String)
  | oneOf (key : String) (values : List Literal) (negated : Bool)
  | present (key : String) (negated : Bool)
  | not (inner : Predicate)
  | and (left right : Predicate)
  | or (left right : Predicate)

def compileComparison (patterns : PatternEngine) (key : String) (operator : Operator)
    (value : Literal) : Except Fault Predicate :=
  match operator with
  | .equal => .ok (.equals key value false)
  | .notEqual => .ok (.equals key value true)
  | .contains => .ok (.contains key value.text)
  | .search | .notSearch =>
    match patterns.compile value.text with
    | .ok pattern => .ok (.matchesPattern key pattern (operator = .notSearch))
    | .error reason => .error (.badPattern key reason)
  | _ =>
    match value.number? with
    | some bound => .ok (.compares key operator bound)
    | none => .error (.notNumeric key operator value)

def compile (patterns : PatternEngine) : Expr → Except Fault Predicate
  | .all => .ok .all
  | .group inner => compile patterns inner
  | .not inner => do return .not (← compile patterns inner)
  | .and left right => do return .and (← compile patterns left) (← compile patterns right)
  | .or left right => do return .or (← compile patterns left) (← compile patterns right)
  | .present key negated => .ok (.present key negated)
  | .oneOf key values negated => .ok (.oneOf key values negated)
  | .comparison key operator value => compileComparison patterns key operator value

/-- The number a label value denotes, blanks around it apart. -/
def labelNumber? (label : String) : Option Float := readScalar? (Text.trim label)

/-- A word equals itself only; a number also equals every label that denotes the same number. -/
def Literal.equals (value : Literal) (label : String) : Bool :=
  match value with
  | .word content => label == content
  | .number denoted written => label == written || (labelNumber? label).any (· == denoted)

def Operator.compares (operator : Operator) (left right : Float) : Bool :=
  match operator with
  | .greater => right < left
  | .greaterOrEqual => right ≤ left
  | .less => left < right
  | .lessOrEqual => left ≤ right
  | _ => false

/-- Whether `needle` stands somewhere in the text. -/
def occursIn (needle : List Char) : List Char → Bool
  | [] => needle.isEmpty
  | c :: rest => needle.isPrefixOf (c :: rest) || occursIn needle rest

def Predicate.decide (labels : Labels) : Predicate → Bool
  | all => true
  | equals key value negated => (labels.get? key).any value.equals != negated
  | compares key operator bound =>
    ((labels.get? key).bind labelNumber?).any fun number => operator.compares number bound
  | matchesPattern key pattern negated => (labels.get? key).any pattern.isFoundIn != negated
  | contains key needle => (labels.get? key).any fun label => occursIn needle.toList label.toList
  | oneOf key values negated =>
    ((labels.get? key).any fun label => values.any (·.equals label)) != negated
  | present key negated => labels.contains key != negated
  | not inner => !inner.decide labels
  | and left right => left.decide labels && right.decide labels
  | or left right => left.decide labels || right.decide labels

end Filter

/-- A compiled filter and the text it was read from. -/
structure Filter where
  predicate : Filter.Predicate
  source : String

namespace Filter

def all : Filter := ⟨.all, ""⟩

def ofText (patterns : PatternEngine) (text : String) : Except Fault Filter := do
  return ⟨← compile patterns (← readExpr text), Text.trim text⟩

def isAll (filter : Filter) : Bool :=
  match filter.predicate with
  | .all => true
  | _ => false

def accepts (filter : Filter) (labels : Labels) : Bool := filter.predicate.decide labels

/-- The filter's own text, or a star where there is none. -/
def render (filter : Filter) : String := if filter.source = "" then "*" else filter.source

end Filter

end SeriesQuery
