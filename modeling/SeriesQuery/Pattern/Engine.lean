/-!
What filters ask of an engine for patterns. Which texts are patterns, and where they are found, is
the engine's own business.
-/
namespace SeriesQuery

/-- A compiled pattern, known by the texts that it is found in. -/
structure Matcher where
  isFoundIn : String → Bool

structure PatternEngine where
  /-- The matcher of a pattern, or why the engine refuses its text. -/
  compile : String → Except String Matcher

end SeriesQuery
