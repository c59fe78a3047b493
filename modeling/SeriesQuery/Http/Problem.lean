import SeriesQuery.Failure
import SeriesQuery.Http.Message
import SeriesQuery.Json.Decoder
/-! Why a request over HTTP has no answer, and how the caller is told. -/
namespace SeriesQuery.Http

inductive BodyFault where
  | notJson
  | tooLong
  | unreadable (fault : Json.Fault)
  deriving DecidableEq, Repr

def BodyFault.message : BodyFault → String
  | notJson => "Expected request with \x60Content-Type: application/json\x60"
  | tooLong => "Failed to buffer the request body: length limit exceeded"
  | unreadable .malformed => "Failed to parse the request body as JSON"
  | unreadable .misshapen => "Failed to deserialize the JSON body into the target type"

inductive Problem where
  | body (fault : BodyFault)
  | refused (failure : Failure)
  deriving DecidableEq

namespace Problem

def message : Problem → String
  | body fault => "Invalid query: malformed request body: " ++ fault.message
  | refused failure => failure.message

/-- Whether the caller has to ask for something else. -/
def isClientError : Problem → Bool
  | body _ => true
  | refused failure => failure.isClientError

def status : Problem → Nat
  | refused (.storeFull _ _) => 503
  | problem => if problem.isClientError then 400 else 500

def code (problem : Problem) : String :=
  if problem.isClientError then "invalid_query" else "internal"

def toResponse (problem : Problem) : Response :=
  .ofJson problem.status <| .object [
    ("status", .string "error"),
    ("error", .object [("code", .string problem.code), ("message", .string problem.message)])]

end Problem

end SeriesQuery.Http
