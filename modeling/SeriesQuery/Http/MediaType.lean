/-! Types of content, such as `application/json; charset=utf-8`. -/
namespace SeriesQuery.Http

structure MediaType where
  family : String
  subtype : String
  /-- The syntax a subtype is written in, if it says so behind a plus sign. -/
  suffix : Option String
  deriving DecidableEq, Repr

namespace MediaType

def isTokenChar (c : Char) : Bool :=
  c.isAlphanum ||
    c ∈ ['!', '#', '$', '%', '&', '\'', '*', '+', '-', '.', '^', '_', '\x60', '|', '~']

def isToken (text : List Char) : Bool := !text.isEmpty && text.all isTokenChar

def isQuotable (c : Char) : Bool := ' ' ≤ c && c ≠ '\x7f'

/-- What follows a value in quotes, given what follows its opening quote; a value has a character at
least. -/
def dropQuoted : List Char → Option (List Char)
  | [] => none
  | first :: rest =>
    match rest.dropWhile fun c => c ≠ '"' && isQuotable c with
    | '"' :: behind => if isQuotable first then some behind else none
    | _ => none

/-- The parameters behind a semicolon; there may be none. `fuel` bounds their number. -/
def areParameters (fuel : Nat) (text : List Char) : Bool :=
  match fuel, text.dropWhile (· = ' ') with
  | 0, _ => false
  | _, [] => true
  | fuel + 1, text =>
    if !isToken (text.takeWhile (· ≠ '=')) then false
    else
      match text.dropWhile (· ≠ '=') with
      | '=' :: '"' :: rest =>
        match dropQuoted rest with
        | none => false
        | some rest =>
          match rest.dropWhile (· = ' ') with
          | [] => true
          | ';' :: rest => areParameters fuel rest
          | _ => false
      | '=' :: rest =>
        match rest.dropWhile isTokenChar with
        | [] => true
        | ';' :: others => rest.head? ≠ some ';' && areParameters fuel others
        | _ => false
      | _ => false

/-- A subtype and what is written behind its last plus sign. -/
def splitSuffix (text : List Char) : List Char × Option (List Char) :=
  let suffix := (text.reverse.takeWhile (· ≠ '+')).reverse
  match (text.reverse.dropWhile (· ≠ '+')).tail.reverse with
  | [] => (text, none)
  | subtype => (subtype, some suffix)

def small (text : List Char) : String := (String.ofList text).toLower

/-- The type a text of visible characters names. -/
def read? (text : String) : Option MediaType :=
  let chars := text.toList
  let family := chars.takeWhile (· ≠ '/')
  let rest := (chars.dropWhile (· ≠ '/')).drop 1
  let subtype := rest.takeWhile (· ≠ ';')
  let isSound := match rest.dropWhile (· ≠ ';') with
    | [] => true
    | _ :: parameters => areParameters (parameters.length + 1) parameters
  if chars.all (fun c => ' ' ≤ c && c ≤ '~') && isToken family && isToken subtype && isSound then
    let (subtype, suffix) := splitSuffix subtype
    some ⟨small family, small subtype, suffix.map small⟩
  else none

/-- Whether content of the type is JSON. -/
def isJson (type : MediaType) : Bool :=
  type.family = "application" && (type.subtype = "json" || type.suffix = some "json")

end MediaType

end SeriesQuery.Http
