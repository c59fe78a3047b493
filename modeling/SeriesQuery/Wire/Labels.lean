import SeriesQuery.Json.Printer
import SeriesQuery.Json.Record
import SeriesQuery.Labels
/-! Label sets and series keys as JSON: labels are an object, the last one of a repeated name
counts. -/
namespace SeriesQuery

open Json (Decoder Record)

namespace Labels

def toJson (labels : Labels) : Json :=
  .object (labels.entries.map fun (name, value) => (name, .string value))

def decoder : Decoder Labels := fun draft =>
  (Decoder.entries Decoder.string draft).map SortedMap.ofList

end Labels

namespace SeriesKey

def toJson (key : SeriesKey) : Json :=
  .object [("metric_name", .string key.metric), ("labels", key.labels.toJson)]

def record : Record SeriesKey :=
  (Record.constant SeriesKey.mk)
    |>.required "metric_name" Decoder.string
    |>.required "labels" Labels.decoder

end SeriesKey

end SeriesQuery
