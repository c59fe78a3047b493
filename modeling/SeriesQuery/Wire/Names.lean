import SeriesQuery.Failure.Query
import SeriesQuery.Json.Basic
import SeriesQuery.Json.Record
/-! Reducers, comparisons, types and temporalities as JSON: their names. -/
namespace SeriesQuery

open Json (Decoder Record)

def TimeReducer.toJson (reducer : TimeReducer) : Json := .string reducer.name

def TimeReducer.decoder : Decoder TimeReducer := Decoder.named fun text => (read text).toOption

def SpaceReducer.toJson (reducer : SpaceReducer) : Json := .string reducer.name

def SpaceReducer.decoder : Decoder SpaceReducer := Decoder.named fun text => (read text).toOption

def Comparison.toJson (comparison : Comparison) : Json := .string comparison.symbol

def Comparison.decoder : Decoder Comparison := Decoder.named fun text => (read text).toOption

def MetricType.toJson (type : MetricType) : Json := .string type.name

def MetricType.decoder : Decoder MetricType := Decoder.choice ofName?

def Temporality.toJson (temporality : Temporality) : Json := .string temporality.name

def Temporality.decoder : Decoder Temporality := Decoder.choice ofName?

namespace Threshold

def toJson (threshold : Threshold Float) : Json :=
  .object [("threshold", .real threshold.bound), ("operator", threshold.comparison.toJson)]

def record {V : Type} [Scalar V] : Record (Threshold V) :=
  (Record.constant Threshold.mk)
    |>.required "threshold" Decoder.scalar
    |>.required "operator" Comparison.decoder

end Threshold

end SeriesQuery
