import SeriesQuery.Answer
import SeriesQuery.Wire.Request
/-! Answers as JSON. -/
namespace SeriesQuery

open Json (Decoder Record)

namespace Answer

def labelToJson (label : String × String) : Json :=
  .object [("key", .string label.1), ("value", .string label.2)]

def labelRecord : Record (String × String) :=
  (Record.constant Prod.mk)
    |>.required "key" Decoder.string
    |>.required "value" Decoder.string

def pointToJson (point : Int × Float) : Json :=
  .object [("timestamp_ms", .integer point.1), ("value", .real point.2)]

def pointRecord {V : Type} [Scalar V] : Record (Int × V) :=
  (Record.constant Prod.mk)
    |>.required "timestamp_ms" Decoder.instant
    |>.required "value" Decoder.scalar

def seriesToJson (series : AnswerSeries Float) : Json :=
  .object [
    ("labels", .array (series.labels.map labelToJson)),
    ("values", .array (series.values.map pointToJson))]

def seriesRecord {V : Type} [Scalar V] : Record (AnswerSeries V) :=
  (Record.constant AnswerSeries.mk)
    |>.required "labels" (Decoder.list labelRecord.decode)
    |>.required "values" (Decoder.list pointRecord.decode)

def toJson (answer : Answer Float) : Json :=
  .object [
    ("status", .string answer.status),
    ("data", .object [("series", .array (answer.series.map seriesToJson))])]

/-- The series stand in an object of their own. -/
def dataRecord {V : Type} [Scalar V] : Record (List (AnswerSeries V)) :=
  (Record.constant id).required "series" (Decoder.list seriesRecord.decode)

def record {V : Type} [Scalar V] : Record (Answer V) :=
  (Record.constant Answer.mk)
    |>.required "status" Decoder.string
    |>.required "data" dataRecord.decode

end Answer

end SeriesQuery
