import SeriesQuery.Decimal.Basic
import SeriesQuery.Yaml.Basic
/-!
Typed reading of YAML. Text may be written plain or in quotes; numbers and truth values only plain.
A record is a mapping, or a sequence of its fields in order; what is left out keeps its default.
-/
namespace SeriesQuery.Yaml

abbrev Decoder (α : Type) := Yaml → Option α

/-- The digits of a number in a base below 37, with no sign. -/
def readDigits (base : Nat) (text : List Char) : Option Nat :=
  if text = [] then none
  else text.foldlM
    (fun total c =>
      let digit := if Decimal.isDigit c then some (c.toNat - '0'.toNat)
        else if c.isAlpha then some (c.toLower.toNat - 'a'.toNat + 10)
        else none
      match digit with
      | some digit => if digit < base then some (total * base + digit) else none
      | none => none)
    0

/-- Decimal digits without a zero in front, or hexadecimal, octal or binary ones behind their
mark. -/
def readNatural (text : List Char) : Option Nat :=
  let unsigned := match text with
    | '+' :: rest => rest
    | _ => text
  match unsigned with
  | '0' :: 'x' :: digits => readDigits 16 digits
  | '0' :: 'o' :: digits => readDigits 8 digits
  | '0' :: 'b' :: digits => readDigits 2 digits
  | '0' :: _ :: _ => none
  | _ => readDigits 10 unsigned

namespace Decoder

def string : Decoder String
  | scalar content _ => some content
  | _ => none

/-- Whole numbers up to a greatest one. -/
def natural (greatest : Nat) : Decoder Nat
  | scalar content true => (readNatural content.toList).filter (· ≤ greatest)
  | _ => none

def flag : Decoder Bool
  | scalar content true =>
    if content ∈ ["true", "True", "TRUE"] then some true
    else if content ∈ ["false", "False", "FALSE"] then some false
    else none
  | _ => none

def list {α : Type} (decoder : Decoder α) : Decoder (List α)
  | sequence items => items.mapM decoder
  | scalar "" true => some []
  | _ => none

/-- Text that names a value. -/
def named {α : Type} (read : String → Option α) : Decoder α := fun yaml => (string yaml).bind read

end Decoder

/-- The fields of a record in their order, each with the way to set it. -/
abbrev Fields (σ : Type) := List (String × (Yaml → σ → Option σ))

/-- A field that is set to what a decoder reads. -/
def Decoder.into {σ α : Type} (decoder : Decoder α) (set : σ → α → σ) : Yaml → σ → Option σ :=
  fun yaml record => (decoder yaml).map (set record)

/-- A record with the fields of a mapping set; each may stand there once, other keys do not
matter. -/
def setNamed {σ : Type} (fields : Fields σ) (seen : List String) (record : σ) :
    List (Yaml × Yaml) → Option σ
  | [] => some record
  | (key, value) :: rest => do
    let name ← Decoder.string key
    match fields.lookup name with
    | none => setNamed fields seen record rest
    | some set =>
      if name ∈ seen then none
      else setNamed fields (name :: seen) (← set value record) rest

/-- A record with its first fields set. -/
def setInOrder {σ : Type} (record : σ) : Fields σ → List Yaml → Option σ
  | _, [] => some record
  | [], _ :: _ => none
  | (_, set) :: fields, value :: values => do setInOrder (← set value record) fields values

/-- The record that a node describes, from its defaults. -/
def record {σ : Type} (fields : Fields σ) (defaults : σ) : Decoder σ
  | mapping entries => setNamed fields [] defaults entries
  | sequence items => setInOrder defaults fields items
  | scalar "" true => some defaults
  | _ => none

end SeriesQuery.Yaml
