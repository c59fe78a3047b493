import SeriesQuery.Config
import SeriesQuery.Duration.Reader
import SeriesQuery.Yaml.Decoder
import SeriesQuery.Yaml.Document
/-! Settings as YAML. -/
namespace SeriesQuery

open Yaml (Decoder Fields)

namespace Yaml.Decoder

def address : Decoder Address := named Address.read?

def duration : Decoder Duration := named Duration.read?

/-- Whole numbers of 64 bits. -/
def word : Decoder Nat := natural (UInt64.size - 1)

end Yaml.Decoder

def ServerSettings.fields : Fields ServerSettings :=
  [("bind_address", Decoder.address.into fun server value => { server with address := value }),
    ("port", (Decoder.natural 65535).into fun server value => { server with port := value }),
    ("enable_cors", Decoder.flag.into fun server value => { server with crossOrigin := value }),
    ("max_request_bytes",
      Decoder.word.into fun server value => { server with maxRequestBytes := value })]

def EngineSettings.fields : Fields EngineSettings :=
  [("worker_threads", Decoder.word.into fun engine value => { engine with workers := value }),
    ("query_timeout",
      Decoder.duration.into fun engine value => { engine with queryTimeout := value }),
    ("lookback", Decoder.duration.into fun engine value => { engine with lookback := value }),
    ("max_points", Decoder.word.into fun engine value => { engine with maxPoints := value })]

def StorageSettings.fields : Fields StorageSettings :=
  [("preload",
      (Decoder.list Decoder.string).into fun storage value => { storage with preload := value }),
    ("max_series", Decoder.word.into fun storage value => { storage with maxSeries := value })]

def LoggingSettings.fields : Fields LoggingSettings :=
  [("level",
      (Decoder.named LogLevel.ofName?).into fun logging value => { logging with level := value }),
    ("structured", Decoder.flag.into fun logging value => { logging with structured := value })]

namespace Config

/-- The sections of a file; debugging is not one of them. -/
def fields : Fields Config :=
  [("server",
      (Yaml.record ServerSettings.fields {}).into fun config value =>
        { config with server := value }),
    ("engine",
      (Yaml.record EngineSettings.fields {}).into fun config value =>
        { config with engine := value }),
    ("storage",
      (Yaml.record StorageSettings.fields {}).into fun config value =>
        { config with storage := value }),
    ("logging",
      (Yaml.record LoggingSettings.fields {}).into fun config value =>
        { config with logging := value })]

/-- The settings a text describes, not yet checked. -/
def read (text : String) : Except ConfigFault Config :=
  match (Yaml.ofText? text).bind (Yaml.record fields {}) with
  | some config => .ok config
  | none => .error .malformed

end Config

end SeriesQuery
