import SeriesQuery.Json.Draft
import SeriesQuery.Json.Scaling
/-!
Typed reading of JSON. A decoder goes through a draft from left to right and stops at the first
fault, which is one of form or one of meaning.
-/
namespace SeriesQuery.Json

inductive Fault where
  /-- The text is not well formed. -/
  | malformed
  /-- The text is well formed so far, but another kind of value is asked for. -/
  | misshapen
  deriving DecidableEq, Repr

def Fault.message : Fault → String
  | malformed => "text is not well formed"
  | misshapen => "another value is asked for"

abbrev Decoder (α : Type) := Draft → Except Fault α

namespace Draft

/-- Why a value is refused where another kind of value is asked for. -/
def refusal : Draft → Fault
  | broken => .malformed
  | string none => .malformed
  | number value decimals =>
    if (scaled? value decimals : Option Float).isSome then .misshapen else .malformed
  | _ => .misshapen

end Draft

namespace Decoder

def string : Decoder String
  | .string (some content) => .ok content
  | draft => .error draft.refusal

/-- Whole numbers in the given range; the negative zero is not one of them. -/
def integer (least greatest : Int) : Decoder Int
  | .number value decimals =>
    let signed : Int := if value.negative then -value.coefficient else value.coefficient
    if decimals = none ∧ ¬(value.negative ∧ value.coefficient = 0) ∧ least ≤ signed ∧
        signed ≤ greatest then
      .ok signed
    else .error (Draft.number value decimals).refusal
  | draft => .error draft.refusal

def scalar {V : Type} [Scalar V] : Decoder V
  | .number value decimals =>
    match scaled? value decimals with
    | some scalar => .ok scalar
    | none => .error .malformed
  | draft => .error draft.refusal

/-- A value that may be null. -/
def nullable {α : Type} (decoder : Decoder α) : Decoder (Option α)
  | .null => .ok none
  | draft => (decoder draft).map some

def list {α : Type} (decoder : Decoder α) : Decoder (List α)
  | .array items closed => do
    let values ← items.mapM decoder
    if closed then return values else throw .malformed
  | draft => .error draft.refusal

/-- Entries in the order of the text. -/
def entries {α : Type} (decoder : Decoder α) : Decoder (List (String × α))
  | .object fields closed => do
    let values ← fields.mapM fun (name, value) =>
      match name with
      | some name => do return (name, ← decoder value)
      | none => throw .malformed
    if closed then return values else throw .malformed
  | draft => .error draft.refusal

/-- Text that names a value. -/
def named {α : Type} (read : String → Option α) : Decoder α := fun draft => do
  match read (← string draft) with
  | some value => return value
  | none => throw .misshapen

def nothing : Decoder Unit
  | .null => .ok ()
  | draft => .error draft.refusal

/-- One of several alternatives: its name, or an object whose only field has that name and is
null. -/
def choice {α : Type} (read : String → Option α) : Decoder α
  | .object ((some name, value) :: rest) closed => do
    match read name with
    | some result =>
      nothing value
      if rest.isEmpty ∧ closed then return result else throw .malformed
    | none => throw .misshapen
  | .string (some name) => named read (.string (some name))
  | _ => .error .malformed

/-- Decodes a text that holds one value and nothing behind it. -/
def ofText {α : Type} (decoder : Decoder α) (text : String) : Except Fault α := do
  let (draft, trailing) := Draft.ofText text
  let value ← decoder draft
  if trailing then throw .malformed
  return value

/-- Decodes the first value of a text. -/
def ofLeading {α : Type} (decoder : Decoder α) (text : String) : Except Fault α :=
  decoder (Draft.ofText text).1

end Decoder

end SeriesQuery.Json
