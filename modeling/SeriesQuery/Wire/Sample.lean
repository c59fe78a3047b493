import SeriesQuery.Series
import SeriesQuery.Wire.Labels
import SeriesQuery.Wire.Names
import SeriesQuery.Wire.Request
/-! Samples as JSON. -/
namespace SeriesQuery.Sample

open Json (Decoder Record)

def toJson (sample : Sample Float) : Json :=
  .object [
    ("metric_name", .string sample.key.metric),
    ("labels", sample.key.labels.toJson),
    ("timestamp_ms", .integer sample.instant),
    ("value", .real sample.value),
    ("temporality", sample.temporality.toJson),
    ("type", sample.type.toJson)]

def ofParts {V : Type} (metric : String) (labels : Labels) (instant : Int) (value : V)
    (temporality : Temporality) (type : MetricType) : Sample V :=
  ⟨⟨metric, labels⟩, type, temporality, instant, value⟩

def record {V : Type} [Scalar V] : Record (Sample V) :=
  (Record.constant ofParts)
    |>.required "metric_name" Decoder.string
    |>.required "labels" Labels.decoder
    |>.required "timestamp_ms" Decoder.instant
    |>.required "value" Decoder.scalar
    |>.defaulted ["temporality"] Temporality.decoder .unspecified
    |>.required "type" MetricType.decoder

end SeriesQuery.Sample
