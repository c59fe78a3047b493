import SeriesQuery.Instant
import SeriesQuery.Json.Printer
import SeriesQuery.Json.Record
import SeriesQuery.Request
/-! Requests as JSON. -/
namespace SeriesQuery

open Json (Decoder Record)

namespace Json.Decoder

/-- Whole numbers of 64 bits with a sign. -/
def instant : Decoder Int := integer Instant.least Instant.greatest

/-- Whole numbers of 64 bits without a sign. -/
def natural : Decoder Nat := fun draft => (integer 0 (UInt64.size - 1) draft).map Int.toNat

end Json.Decoder

namespace ThresholdRequest

def toJson (threshold : ThresholdRequest Float) : Json :=
  .object [("threshold", .real threshold.bound), ("operator", .string threshold.comparison)]

def record {V : Type} [Scalar V] : Record (ThresholdRequest V) :=
  (Record.constant ThresholdRequest.mk)
    |>.required "threshold" Decoder.scalar
    |>.required "operator" Decoder.string

end ThresholdRequest

namespace Request

/-- A request without a threshold says so; one without a time limit of its own does not mention
it. -/
def toJson (request : Request Float) : Json :=
  let timeout := match request.timeout with
    | some milliseconds => [("timeout_ms", Json.integer milliseconds)]
    | none => []
  .object <| [
    ("metric_name", .string request.metric),
    ("start_ms", .integer request.start),
    ("end_ms", .integer request.stop),
    ("step_seconds", .integer request.stepSeconds),
    ("time_aggregation", .string request.timeReducer),
    ("space_aggregation", .string request.spaceReducer),
    ("filter_expression", .string request.filter),
    ("group_by", .array (request.groupBy.map .string)),
    ("comparison_space_aggregation", (request.threshold.map ThresholdRequest.toJson).getD .null)]
    ++ timeout

def record {V : Type} [Scalar V] : Record (Request V) :=
  (Record.constant Request.mk)
    |>.required "metric_name" Decoder.string
    |>.required "start_ms" Decoder.instant
    |>.required "end_ms" Decoder.instant
    |>.required "step_seconds" Decoder.instant
    |>.required "time_aggregation" Decoder.string
    |>.required "space_aggregation" Decoder.string
    |>.defaulted ["filter_expression", "label_filter_expression"] Decoder.string ""
    |>.defaulted ["group_by"] (Decoder.list Decoder.string) []
    |>.defaulted ["comparison_space_aggregation"] (Decoder.nullable ThresholdRequest.record.decode)
      none
    |>.defaulted ["timeout_ms"] (Decoder.nullable Decoder.natural) none

end Request

end SeriesQuery
