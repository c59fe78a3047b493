import SeriesQuery.Reducer.Space
import SeriesQuery.Threshold
/-!
Queries as callers send them. Reducers and comparisons are still text, so that an unknown name is a
fault of the query and not of its form.
-/
namespace SeriesQuery

structure ThresholdRequest (V : Type) where
  bound : V
  comparison : String
  deriving DecidableEq

structure Request (V : Type) where
  metric : String
  start : Int
  stop : Int
  stepSeconds : Int
  timeReducer : String
  spaceReducer : String
  filter : String
  groupBy : List String
  threshold : Option (ThresholdRequest V)
  /-- A time limit of its own, in milliseconds. -/
  timeout : Option Nat
  deriving DecidableEq

namespace Request

variable {V : Type}

/-- Sums over time and over all series, without a filter. -/
def plain (metric : String) (start stop stepSeconds : Int) : Request V where
  metric := metric
  start := start
  stop := stop
  stepSeconds := stepSeconds
  timeReducer := TimeReducer.sum.name
  spaceReducer := SpaceReducer.sum.name
  filter := ""
  groupBy := []
  threshold := none
  timeout := none

def overTime (request : Request V) (reducer : TimeReducer) : Request V :=
  { request with timeReducer := reducer.name }

def overSpace (request : Request V) (reducer : SpaceReducer) : Request V :=
  { request with spaceReducer := reducer.name }

def filtered (request : Request V) (filter : String) : Request V :=
  { request with filter := filter }

def grouped (request : Request V) (label : String) : Request V :=
  { request with groupBy := request.groupBy ++ [label] }

def against (request : Request V) (threshold : Threshold V) : Request V :=
  { request with threshold := some ⟨threshold.bound, threshold.comparison.symbol⟩ }

def within (request : Request V) (milliseconds : Nat) : Request V :=
  { request with timeout := some milliseconds }

end Request

end SeriesQuery
