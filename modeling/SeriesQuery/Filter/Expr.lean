import SeriesQuery.Scalar
import SeriesQuery.Text.Blank
/-!
Filter expressions over label sets, and the text an expression is written as.
-/
namespace SeriesQuery.Filter

inductive Operator where
  | equal
  | notEqual
  | greater
  | greaterOrEqual
  | less
  | lessOrEqual
  | search
  | notSearch
  | contains
  deriving DecidableEq, Repr

namespace Operator

def symbol : Operator → String
  | equal => "="
  | notEqual => "!="
  | greater => ">"
  | greaterOrEqual => ">="
  | less => "<"
  | lessOrEqual => "<="
  | search => "=~"
  | notSearch => "!~"
  | contains => "CONTAINS"

/-- Whether the operator compares numbers. -/
def isNumeric : Operator → Bool
  | greater | greaterOrEqual | less | lessOrEqual => true
  | _ => false

end Operator

/-- A number keeps the text it was written as. -/
inductive Literal where
  | word (content : String)
  | number (value : Float) (written : String)
  deriving DecidableEq, Repr

namespace Literal

def text : Literal → String
  | word content => content
  | number _ written => written

def number? : Literal → Option Float
  | word content => readScalar? (Text.trim content)
  | number value _ => some value

def render : Literal → String
  | word content => "\"" ++ content ++ "\""
  | number _ written => written

end Literal

inductive Expr where
  | comparison (key : String) (operator : Operator) (value : Literal)
  | oneOf (key : String) (values : List Literal) (negated : Bool)
  | present (key : String) (negated : Bool)
  | not (inner : Expr)
  | and (left right : Expr)
  | or (left right : Expr)
  | group (inner : Expr)
  /-- The empty filter. -/
  | all
  deriving DecidableEq, Repr

def negation (negated : Bool) : String := if negated then "NOT " else ""

def Expr.render : Expr → String
  | comparison key operator value => key ++ " " ++ operator.symbol ++ " " ++ value.render
  | oneOf key values negated =>
    key ++ " " ++ negation negated ++ "IN (" ++ ", ".intercalate (values.map Literal.render) ++ ")"
  | present key negated => key ++ " " ++ negation negated ++ "EXISTS"
  | not inner => "NOT " ++ inner.render
  | and left right => left.render ++ " AND " ++ right.render
  | or left right => left.render ++ " OR " ++ right.render
  | group inner => "(" ++ inner.render ++ ")"
  | all => "*"

end SeriesQuery.Filter
