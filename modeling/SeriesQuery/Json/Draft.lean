import SeriesQuery.Json.Tokens
/-!
JSON text as far as it is well formed. A draft keeps what stands before the first fault of the text,
so that reading it from left to right meets faults of form and faults of meaning in their order.
-/
namespace SeriesQuery.Json

inductive Draft where
  /-- No value stands here. -/
  | broken
  | null
  | bool (value : Bool)
  | number (value : Decimal) (decimals : Option Nat)
  | string (content : Option String)
  /-- The items before the end, or before the fault if the array is not closed. -/
  | array (items : List Draft) (closed : Bool)
  | object (fields : List (Option String × Draft)) (closed : Bool)

namespace Draft

/-- What was read, and the tokens behind it. -/
structure Reading (α : Type) (tokens : List Token) where
  value : α
  rest : List Token
  length_rest : rest.length ≤ tokens.length

def Reading.map {α β : Type} {tokens longer : List Token} (reading : Reading α tokens)
    (change : α → β) (longest : tokens.length ≤ longer.length) : Reading β longer :=
  ⟨change reading.value, reading.rest, Nat.le_trans reading.length_rest longest⟩

mutual

def readValue (tokens : List Token) : Reading Draft tokens :=
  match tokens with
  | .null :: rest => ⟨null, rest, Nat.le_succ _⟩
  | .bool value :: rest => ⟨bool value, rest, Nat.le_succ _⟩
  | .number value decimals :: rest => ⟨number value decimals, rest, Nat.le_succ _⟩
  | .string content :: rest => ⟨string content, rest, Nat.le_succ _⟩
  | .openArray :: .closeArray :: rest => ⟨array [] true, rest, Nat.le_add_right _ 2⟩
  | .openArray :: rest =>
    (readItems rest).map (fun (items, closed) => array items closed) (Nat.le_succ _)
  | .openObject :: .closeObject :: rest => ⟨object [] true, rest, Nat.le_add_right _ 2⟩
  | .openObject :: rest =>
    (readFields rest).map (fun (fields, closed) => object fields closed) (Nat.le_succ _)
  | _ => ⟨broken, [], Nat.zero_le _⟩
termination_by (tokens.length, 0)

/-- Items up to the end of the array, and whether it is closed. -/
def readItems (tokens : List Token) : Reading (List Draft × Bool) tokens :=
  let ⟨item, afterItem, shorter⟩ := readValue tokens
  match afterItem with
  | .comma :: rest =>
    have : rest.length < tokens.length := Nat.lt_of_lt_of_le (Nat.lt_succ_self _) shorter
    (readItems rest).map (fun (items, closed) => (item :: items, closed)) (Nat.le_of_lt this)
  | .closeArray :: rest => ⟨([item], true), rest, Nat.le_trans (Nat.le_succ _) shorter⟩
  | _ => ⟨([item], false), [], Nat.zero_le _⟩
termination_by (tokens.length, 1)

/-- Fields up to the end of the object, and whether it is closed. -/
def readFields (tokens : List Token) : Reading (List (Option String × Draft) × Bool) tokens :=
  match tokens with
  | .string name :: .colon :: rest =>
    let ⟨value, afterValue, shorter⟩ := readValue rest
    match afterValue with
    | .comma :: rest' =>
      have : rest'.length < rest.length + 2 := by
        simp only [List.length_cons] at shorter
        omega
      (readFields rest').map (fun (fields, closed) => ((name, value) :: fields, closed))
        (Nat.le_of_lt this)
    | .closeObject :: rest' =>
      ⟨([(name, value)], true), rest', by
        simp only [List.length_cons] at shorter ⊢
        omega⟩
    | _ => ⟨([(name, value)], false), [], Nat.zero_le _⟩
  | .string name :: _ => ⟨([(name, broken)], false), [], Nat.zero_le _⟩
  | _ => ⟨([], false), [], Nat.zero_le _⟩
termination_by (tokens.length, 1)

end

/-- The first value of a text, and whether anything stands behind it. -/
def ofText (text : String) : Draft × Bool :=
  let reading := readValue (tokens text.toList)
  (reading.value, !reading.rest.isEmpty)

mutual

/-- Whether the whole value is well formed. -/
def isIntact : Draft → Bool
  | broken => false
  | array items closed => areIntact items && closed
  | object fields closed => areFieldsIntact fields && closed
  | _ => true

def areIntact : List Draft → Bool
  | [] => true
  | item :: rest => isIntact item && areIntact rest

def areFieldsIntact : List (Option String × Draft) → Bool
  | [] => true
  | (_, value) :: rest => isIntact value && areFieldsIntact rest

end

end Draft

end SeriesQuery.Json
