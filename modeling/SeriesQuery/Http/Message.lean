import SeriesQuery.Json.Printer
/-! Requests and responses over HTTP. -/
namespace SeriesQuery.Http

structure Request where
  verb : String
  /-- The path, maybe with a query string behind it. -/
  target : String
  headers : List (String × String) := []
  body : String := ""
  deriving DecidableEq, Repr

namespace Request

/-- The path alone. -/
def path (request : Request) : String :=
  String.ofList (request.target.toList.takeWhile fun c => c ≠ '?' && c ≠ '#')

/-- A header by its name in small letters. -/
def header? (request : Request) (name : String) : Option String :=
  (request.headers.find? fun header => header.1.toLower = name).map (·.2)

end Request

inductive Body where
  | empty
  | text (content : String)
  | json (value : Json)

def Body.render : Body → String
  | empty => ""
  | text content => content
  | json value => value.render

structure Response where
  status : Nat
  headers : List (String × String) := []
  body : Body := .empty

namespace Response

def header? (response : Response) (name : String) : Option String := response.headers.lookup name

def withHeader (response : Response) (name value : String) : Response :=
  { response with headers := (name, value) :: response.headers }

def ofText (status : Nat) (content : String) : Response :=
  ⟨status, [("content-type", "text/plain; charset=utf-8")], .text content⟩

def ofJson (status : Nat) (value : Json) : Response :=
  ⟨status, [("content-type", "application/json")], .json value⟩

end Response

end SeriesQuery.Http
