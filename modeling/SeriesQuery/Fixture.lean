import SeriesQuery.Instant.Reader
import SeriesQuery.Text.Pieces
import SeriesQuery.Wire.Sample
/-!
Samples as lines of text, one record a line; blank lines are passed over. A line that is refused
refuses the whole text. How a record is decoded is left to the caller; the program decodes JSON
objects.
-/
namespace SeriesQuery

open Json (Decoder Record)

/-- A line as it is written, before its type and temporality are looked up. -/
structure FixtureRecord (V : Type) where
  metric : String
  labels : Labels
  instant : Int
  value : V
  temporality : Option String
  type : String

namespace FixtureRecord

def record {V : Type} [Scalar V] : Record (FixtureRecord V) :=
  (Record.constant FixtureRecord.mk)
    |>.required "metric_name" Decoder.string
    |>.defaulted ["labels"] Labels.decoder ∅
    |>.required "timestamp" (Decoder.named Instant.read?)
    |>.required "value" Decoder.scalar
    |>.defaulted ["temporality"] (Decoder.nullable Decoder.string) none
    |>.required "type" Decoder.string

/-- The decoder of the program. -/
def decode {V : Type} [Scalar V] (text : String) : Except String (FixtureRecord V) :=
  (Decoder.ofText record.decode text).mapError Json.Fault.message

def lowercase (text : String) : String := String.ofList (text.toList.map Char.toLower)

/-- In lines a sum may also be called a counter. -/
def readType (text : String) : Except LineFault MetricType :=
  let name := lowercase text
  match if name = "counter" then some MetricType.sum else MetricType.ofName? name with
  | some type => .ok type
  | none => .error (.unknownType name)

/-- In lines the temporality may be missing or empty. -/
def readTemporality (text : Option String) : Except LineFault Temporality :=
  let name := lowercase (text.getD "")
  match if name = "" then some Temporality.unspecified else Temporality.ofName? name with
  | some temporality => .ok temporality
  | none => .error (.unknownTemporality name)

def sample {V : Type} (record : FixtureRecord V) : Except LineFault (Sample V) := do
  let type ← readType record.type
  let temporality ← readTemporality record.temporality
  return ⟨⟨record.metric, record.labels⟩, type, temporality, record.instant, record.value⟩

end FixtureRecord

namespace Fixture

variable {V : Type} (decode : String → Except String (FixtureRecord V))

/-- The sample on a line, if the line is not blank. -/
def readLine (line : List Char) : Except LineFault (Option (Sample V)) :=
  let content := Text.trimmed line
  if content = [] then .ok none
  else
    match decode (String.ofList content) with
    | .error reason => .error (.unreadable reason)
    | .ok record => record.sample.map some

/-- The samples on numbered lines. -/
def readLines (number : Nat) : List (List Char) → Except SeriesFault (List (Sample V))
  | [] => .ok []
  | line :: rest => do
    let sample ← (readLine decode line).mapError (.line number)
    let samples ← readLines (number + 1) rest
    return sample.toList ++ samples

/-- What is changed while samples are read. -/
structure Options where
  /-- Replaces the name of every metric. -/
  rename : Option String := none
  /-- The instant on which the earliest sample comes to lie. -/
  base : Option Int := none

def renamed (name : String) (sample : Sample V) : Sample V :=
  { sample with key := { sample.key with metric := name } }

/-- Moves all samples by one shift, in the arithmetic of 64 bits. -/
def rebased (base : Int) (samples : List (Sample V)) : List (Sample V) :=
  match (samples.map (·.instant)).min? with
  | none => samples
  | some earliest =>
    samples.map fun sample =>
      { sample with instant := Int.bmod (sample.instant + (base - earliest)) UInt64.size }

def read (text : String) (options : Options) : Except SeriesFault (List (Sample V)) := do
  let samples ← readLines decode 1 (Text.pieces '\n' text.toList)
  let named := match options.rename with
    | some name => samples.map (renamed name)
    | none => samples
  return match options.base with
    | some base => rebased base named
    | none => named

end Fixture

end SeriesQuery
