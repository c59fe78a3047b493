import SeriesQuery.Json.Decoder
/-!
Records in JSON: an object with named fields in any order, or an array of the fields in their own
order.

An object may hold further fields, which only have to be well formed, but no field twice. Fields
with a default value may be missing; in an array, only from its end.
-/
namespace SeriesQuery.Json

/-- The names of a field, the first one being its own, and the check of its value. -/
structure Field where
  names : List String
  check : Decoder Unit

/-- The fields found, by their own names. -/
abbrev Found := List (List String × Draft)

/-- How a record is read: its fields, and its value once all fields are found and checked. -/
structure Record (α : Type) where
  fields : List Field
  build : Found → Except Fault α

namespace Record

def constant {α : Type} (value : α) : Record α := ⟨[], fun _ => .ok value⟩

/-- Adds a field that may be missing to the record of a function. -/
def optional {α β : Type} (record : Record (α → β)) (names : List String) (decoder : Decoder α)
    (default : Except Fault α) : Record β where
  fields := record.fields ++ [⟨names, fun draft => (decoder draft).map fun _ => ()⟩]
  build found := do
    let make ← record.build found
    match found.lookup names with
    | some draft => return make (← decoder draft)
    | none => return make (← default)

/-- Adds a field with a default value. -/
def defaulted {α β : Type} (record : Record (α → β)) (names : List String) (decoder : Decoder α)
    (default : α) : Record β :=
  record.optional names decoder (.ok default)

def required {α β : Type} (record : Record (α → β)) (name : String) (decoder : Decoder α) :
    Record β :=
  record.optional [name] decoder (.error .misshapen)

/-- Checks the fields of an object in the order of the text. -/
def findNamed (fields : List Field) (found : Found) :
    List (Option String × Draft) → Except Fault Found
  | [] => .ok found
  | (none, _) :: _ => .error .malformed
  | (some name, draft) :: rest =>
    match fields.find? fun field => name ∈ field.names with
    | none => if draft.isIntact then findNamed fields found rest else .error .malformed
    | some field =>
      if (found.lookup field.names).isSome then .error .misshapen
      else do
        field.check draft
        findNamed fields ((field.names, draft) :: found) rest

/-- Checks the items of an array against the fields in their own order. -/
def findInOrder : List Field → List Draft → Except Fault Found
  | _, [] => .ok []
  | [], _ :: _ => .error .malformed
  | field :: fields, draft :: rest => do
    field.check draft
    return (field.names, draft) :: (← findInOrder fields rest)

def decode {α : Type} (record : Record α) : Decoder α
  | .object fields closed => do
    let found ← findNamed record.fields [] fields
    if closed then record.build found else throw .malformed
  | .array items closed => do
    let found ← findInOrder record.fields items
    if closed then record.build found else throw .malformed
  | draft => .error draft.refusal

end Record

end SeriesQuery.Json
