import SeriesQuery.Proofs.Json.Records
/-!
Values read by their decoders. Main statements: a decoder meets in a text what was printed there;
whole numbers in range, strings, lists and named entries are read as the values they were printed
for.
-/
namespace SeriesQuery.Json

theorem draftsOfItems_eq_map (items : List Json) : draftsOfItems items = items.map draft := by
  induction items with
  | nil => rfl
  | cons item items ih => rw [draftsOfItems, ih, List.map_cons]

/-- An entry as it is read. -/
def drafted (entry : String × Json) : String × Draft := (entry.1, entry.2.draft)

theorem draftsOfFields_eq_map (fields : List (String × Json)) :
    draftsOfFields fields = (fields.map drafted).map Record.named := by
  induction fields with
  | nil => rfl
  | cons field fields ih =>
      rcases field with ⟨name, value⟩
      rw [draftsOfFields, ih]
      rfl

namespace Decoder

theorem ofText_render {α : Type} (decoder : Decoder α) (json : Json) :
    ofText decoder json.render = decoder json.draft := by
  rw [ofText, Json.ofText_render]
  dsimp only
  cases decoder json.draft <;> rfl

/-- The text of an object is read as its entries are. -/
theorem ofText_object {α : Type} {record : Record α} {fields : List (String × Json)} {value : α} :
    ofText record.decode (Json.object fields).render = .ok value ↔
      record.Decodes (fields.map drafted) value := by
  rw [ofText_render, draft, draftsOfFields_eq_map]
  rfl

theorem integer_draft {least greatest value : Int} (low : least ≤ value) (high : value ≤ greatest) :
    integer least greatest (Json.integer value).draft = .ok value := by
  have signed : (if decide (value < 0) then -(value.natAbs : Int) else value.natAbs) = value := by
    split
    · rename_i negative
      have negative := of_decide_eq_true negative
      omega
    · rename_i positive
      have positive := of_decide_eq_false (Bool.eq_false_iff.mpr positive)
      omega
  have zero : ¬(decide (value < 0) = true ∧ value.natAbs = 0) := by
    rintro ⟨negative, none⟩
    have negative := of_decide_eq_true negative
    omega
  rw [draft, integer, signed, if_pos ⟨rfl, zero, low, high⟩]

theorem string_draft (content : String) : string (Json.string content).draft = .ok content := rfl

theorem scalar_number {V : Type} [Scalar V] {decimal : Decimal} {places : Option Nat} {value : V}
    (known : scaled? decimal places = some value) :
    scalar (.number decimal places) = .ok value := by
  rw [scalar, known]

theorem mapM_map {α γ ε : Type} {write : α → γ} {read : γ → Except ε α}
    (reads : ∀ value, read (write value) = .ok value) (values : List α) :
    (values.map write).mapM read = .ok values := by
  induction values with
  | nil => rfl
  | cons value values ih =>
      rw [List.map_cons, List.mapM_cons, reads, ih]
      rfl

theorem list_draft {α : Type} {decoder : Decoder α} {write : α → Json}
    (reads : ∀ value, decoder (write value).draft = .ok value) (values : List α) :
    list decoder (Json.array (values.map write)).draft = .ok values := by
  rw [draft, draftsOfItems_eq_map, List.map_map, list]
  exact bind_eq_ok_iff.mpr ⟨values, mapM_map reads values, rfl⟩

theorem entries_draft {α : Type} {decoder : Decoder α} {write : α → Json}
    (reads : ∀ value, decoder (write value).draft = .ok value) (values : List (String × α)) :
    entries decoder (Json.object (values.map fun (name, value) => (name, write value))).draft =
      .ok values := by
  rw [draft, draftsOfFields_eq_map, List.map_map, List.map_map, entries]
  refine bind_eq_ok_iff.mpr ⟨values, mapM_map ?_ values, rfl⟩
  rintro ⟨name, value⟩
  exact bind_eq_ok_iff.mpr ⟨value, reads value, rfl⟩

theorem named_string {α : Type} (read : String → Option α) (content : String) :
    named read (.string (some content)) =
      match read content with
      | some value => .ok value
      | none => .error .misshapen := by
  simp only [named, string, bind, Except.bind]
  cases read content <;> rfl

end Decoder

end SeriesQuery.Json
