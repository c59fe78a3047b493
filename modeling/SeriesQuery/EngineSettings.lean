import SeriesQuery.Duration
/-! What an engine is set up with. -/
namespace SeriesQuery

structure EngineSettings where
  /-- Zero stands for one worker for each core. -/
  workers : Nat := 0
  queryTimeout : Duration := .ofSeconds 30
  lookback : Duration := .ofSeconds 300
  maxPoints : Nat := 11000
  deriving DecidableEq, Repr

end SeriesQuery
