import SeriesQuery.Config
import SeriesQuery.Decimal.Natural
import SeriesQuery.Engine
import SeriesQuery.Http.MediaType
import SeriesQuery.Http.Problem
import SeriesQuery.Version
import SeriesQuery.Wire.Answer
/-!
Queries over HTTP. There are two places to ask at: one tells how the engine is, the other one
answers queries.
-/
namespace SeriesQuery.Http

inductive Route where
  | health
  | queryRange
  deriving DecidableEq, Repr

namespace Route

def ofPath? (path : String) : Option Route :=
  if path = "/health" then some health
  else if path = "/api/v1/query_range" then some queryRange
  else none

def verbs : Route → List String
  | health => ["GET", "HEAD"]
  | queryRange => ["POST"]

end Route

structure Server where
  engine : Engine Float
  settings : ServerSettings

namespace Server

/-- How the engine is, after a number of seconds. -/
def health (engine : Engine Float) (uptime : Nat) : Json :=
  let counters := engine.counters
  let count := fun (value : UInt64) => Json.integer value.toNat
  .object [
    ("status", .string "healthy"),
    ("version", .string version),
    ("uptime_seconds", .integer uptime),
    ("series_count", .integer engine.store.size),
    ("engine", .object [
      ("queries_total", count counters.queries),
      ("queries_failed", count counters.failures),
      ("queries_timed_out", count counters.timeouts),
      ("series_scanned", count counters.seriesScanned),
      ("counter_resets", count counters.restarts),
      ("unanchored_steps", count counters.unanchored),
      ("non_monotonic_buckets", count counters.inconsistentSteps)])]

/-- The length of the body that a request announces. -/
def announcedLength? (request : Request) : Option Nat :=
  (request.header? "content-length").bind fun text => Decimal.natural? (UInt64.size - 1) text.toList

/-- No body may be longer than this, whatever the settings say. -/
def greatestBody : Nat := 2097152

/-- Bytes that are read of a body. -/
def bodyLimit (settings : ServerSettings) (request : Request) : Nat :=
  min ((announcedLength? request).getD settings.maxRequestBytes)
    (min settings.maxRequestBytes greatestBody)

/-- The query in the body of a request; text behind it does not matter. -/
def readBody (settings : ServerSettings) (request : Request) :
    Except BodyFault (SeriesQuery.Request Float) :=
  let type := (request.header? "content-type").bind MediaType.read?
  if !type.any MediaType.isJson then .error .notJson
  else if bodyLimit settings request < request.body.utf8ByteSize then .error .tooLong
  else (Json.Decoder.ofLeading Request.record.decode request.body).mapError .unreadable

def query (server : Server) (request : Request) (schedule : Schedule := {}) : Server × Response :=
  match readBody server.settings request with
  | .error fault => (server, (Problem.body fault).toResponse)
  | .ok asked =>
    let (engine, result) := server.engine.query asked schedule
    let response := match result with
      | .ok curves => .ofJson 200 (Answer.success curves).toJson
      | .error failure => (Problem.refused failure).toResponse
    ({ server with engine := engine }, response)

def serve (server : Server) (uptime : Nat) (request : Request) (schedule : Schedule := {}) :
    Server × Response :=
  match Route.ofPath? request.path with
  | none => (server, ⟨404, [], .empty⟩)
  | some route =>
    if request.verb ∉ route.verbs then (server, ⟨405, [], .empty⟩)
    else
      match route with
      | .health => (server, .ofJson 200 (health server.engine uptime))
      | .queryRange => server.query request schedule

/-- Pages of other origins may first ask what is allowed; bodies announced too long are not looked
at. -/
def receive (server : Server) (uptime : Nat) (request : Request) (schedule : Schedule := {}) :
    Server × Response :=
  if server.settings.crossOrigin ∧ request.verb = "OPTIONS" then (server, ⟨200, [], .empty⟩)
  else if (announcedLength? request).any (server.settings.maxRequestBytes < ·) then
    (server, .ofText 413 "length limit exceeded")
  else server.serve uptime request schedule

/-- Where a place is asked in a way that it does not know, the response names the ways it knows. -/
def nameVerbs (request : Request) (response : Response) : Response :=
  match Route.ofPath? request.path with
  | some route =>
    if request.verb ∈ route.verbs then response
    else response.withHeader "allow" (",".intercalate route.verbs)
  | none => response

def openOrigin (settings : ServerSettings) (response : Response) : Response :=
  if settings.crossOrigin then response.withHeader "access-control-allow-origin" "*" else response

/-- Responses that are asked for with `HEAD` have no body. -/
def trimBody (request : Request) (response : Response) : Response :=
  if request.verb = "HEAD" then { response with body := .empty } else response

/-- Answers one request. -/
def answer (server : Server) (uptime : Nat) (request : Request) (schedule : Schedule := {}) :
    Server × Response :=
  let (next, response) := server.receive uptime request schedule
  (next, trimBody request (openOrigin server.settings (nameVerbs request response)))

end Server

end SeriesQuery.Http
