import SeriesQuery.Filter.Expr
import SeriesQuery.Text.Quoted
/-! Why a filter text is refused. -/
namespace SeriesQuery.Filter

/-- What a reading looked for where it stopped. -/
inductive Sought where
  /-- A key or a value. -/
  | word
  | operator
  /-- The end of the keyword just read. -/
  | wordEnd
  /-- A digit of an exponent. -/
  | digit
  deriving DecidableEq, Repr

def Sought.code : Sought → String
  | word => "TakeWhile1"
  | operator => "Tag"
  | wordEnd => "Not"
  | digit => "Digit"

inductive Fault where
  /-- An expression was read but text is left over. -/
  | leftOver (rest : String)
  /-- No expression was read; a missing exponent digit ends every attempt at once. -/
  | unreadable (filter : String) (sought : Sought) (rest : List Char)
  | notNumeric (key : String) (operator : Operator) (value : Literal)
  /-- A text that is no pattern, and why not in the words of the engine. -/
  | badPattern (key reason : String)
  deriving DecidableEq, Repr

def Fault.message : Fault → String
  | leftOver rest => "Unexpected input after filter: '" ++ rest ++ "'"
  | unreadable filter sought rest =>
    let kind := if sought = .digit then "Parsing Failure" else "Parsing Error"
    "Failed to parse filter '" ++ filter ++ "': " ++ kind ++
      ": Error \x7b input: " ++ Text.quoted rest ++ ", code: " ++ sought.code ++ " \x7d"
  | notNumeric key operator value =>
    "'" ++ key ++ " " ++ operator.symbol ++ " " ++ value.render ++ "' needs a numeric value"
  | badPattern key reason => "invalid regex for '" ++ key ++ "': " ++ reason

end SeriesQuery.Filter
