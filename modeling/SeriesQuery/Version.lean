/-! What the service calls itself. -/
namespace SeriesQuery

def programName : String := "strata"

def version : String := "0.1.0"

def purpose : String := "Time-series aggregation query engine"

end SeriesQuery
