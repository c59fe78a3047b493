import SeriesQuery.Failure.Query
import SeriesQuery.Failure.Series
import SeriesQuery.Failure.Config
import SeriesQuery.Filter.Fault
/-! Everything that can go wrong, with its message and its category. -/
namespace SeriesQuery

inductive Failure where
  | query (fault : QueryFault)
  | filter (fault : Filter.Fault)
  | series (fault : SeriesFault)
  /-- A fixture file holds a series that is refused. -/
  | fixture (path : String) (fault : SeriesFault)
  | config (fault : ConfigFault)
  | storeFull (held limit : Nat)
  | file (fault : FileFault)
  /-- A JSON text is not what it should be. -/
  | undecodable
  deriving DecidableEq

namespace Failure

def message : Failure → String
  | query fault => "Invalid query: " ++ fault.message
  | filter fault => "Parse error: " ++ fault.message
  | series fault => "Invalid series: " ++ fault.message
  | fixture path fault => "Invalid series: " ++ path ++ ": Invalid series: " ++ fault.message
  | config fault => "Configuration error: " ++ fault.message
  | storeFull held limit => s!"Series limit exceeded: {held} series stored, limit {limit}"
  | file fault => "IO error: " ++ fault.message
  | undecodable => "Serialization error"

def category : Failure → String
  | query _ | series _ | fixture _ _ => "validation"
  | filter _ | undecodable => "serialization"
  | config _ => "config"
  | storeFull _ _ => "resource"
  | file _ => "io"

/-- Whether the caller asked for something that can never succeed as it was asked. -/
def isClientError : Failure → Bool
  | query _ | filter _ => true
  | _ => false

end Failure

end SeriesQuery
