import SeriesQuery.SortedMap
import SeriesQuery.Scalar
import SeriesQuery.Text.Blank
/-!
Label sets, the keys of series, and the bucket bound that a label set may carry.
-/
namespace SeriesQuery

/-- Label values by label name. -/
abbrev Labels := SortedMap String String

/-- The label whose value is the upper bound of a histogram bucket. -/
def boundLabel : String := "le"

namespace Labels

/-- Only the given names; a name without a label leaves nothing. -/
def project (labels : Labels) (names : List String) : Labels :=
  names.foldl (fun kept name => match labels.get? name with
    | some value => kept.insert name value
    | none => kept) ∅

def render (labels : Labels) : String :=
  let shown := labels.entries.map fun (name, value) => name ++ "=\"" ++ value ++ "\""
  "\x7b" ++ ", ".intercalate shown ++ "\x7d"

end Labels

/-- A bucket bound. Infinity has its usual spellings; no bound is the value that is not a number. -/
def readBound? {V : Type} [Scalar V] (text : String) : Option V :=
  let bare := Text.trim text
  if bare ∈ ["+Inf", "+inf", "Inf", "inf", "+INF"] then some Scalar.infinity
  else (readScalar? bare).filter fun bound => !Scalar.isNaN bound

def Labels.bound? {V : Type} [Scalar V] (labels : Labels) : Option V :=
  (labels.get? boundLabel).bind readBound?

/-- What a series is identified by: the name of its metric and all its labels. -/
structure SeriesKey where
  metric : String
  labels : Labels
  deriving DecidableEq

namespace SeriesKey

def render (key : SeriesKey) : String := key.metric ++ key.labels.render

def compareKeys : SeriesKey → SeriesKey → Ordering :=
  compareLex (compareOn metric) (compareOn labels)

instance : Ord SeriesKey := ⟨compareKeys⟩

instance : Std.TransOrd SeriesKey :=
  inferInstanceAs (Std.TransCmp (compareLex (compareOn metric) (compareOn labels)))

instance : Std.LawfulEqOrd SeriesKey where
  eq_of_compare {a b} equal := by
    obtain ⟨name, set⟩ := Ordering.then_eq_eq.mp equal
    cases a
    cases b
    cases (Std.LawfulEqOrd.eq_of_compare name : _ = _)
    cases (Std.LawfulEqOrd.eq_of_compare set : _ = _)
    rfl

end SeriesKey

end SeriesQuery
