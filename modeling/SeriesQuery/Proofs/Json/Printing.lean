import Mathlib.Data.List.Forall2
import SeriesQuery.Json.Draft
import SeriesQuery.Proofs.Json.Numbers
import SeriesQuery.Proofs.Json.Strings
/-!
Reading what was printed. Main statement: the text of every value is read as the draft of that
value, whole, intact and with nothing behind it.
-/
namespace SeriesQuery.Json

mutual

/-- The tokens of the text of a value. -/
def lexemes : Json → List Token
  | null => [.null]
  | bool value => [.bool value]
  | integer value => [.number ⟨decide (value < 0), value.natAbs, 0⟩ none]
  | real value => [realToken value]
  | string content => [.string (some content)]
  | array items => .openArray :: ([.comma].intercalate (lexemesOfItems items) ++ [.closeArray])
  | object fields =>
    .openObject :: ([.comma].intercalate (lexemesOfFields fields) ++ [.closeObject])

def lexemesOfItems : List Json → List (List Token)
  | [] => []
  | item :: rest => lexemes item :: lexemesOfItems rest

def lexemesOfFields : List (String × Json) → List (List Token)
  | [] => []
  | (name, value) :: rest =>
    (.string (some name) :: .colon :: lexemes value) :: lexemesOfFields rest

end

mutual

/-- What is read from the text of a value. -/
def draft : Json → Draft
  | null => .null
  | bool value => .bool value
  | integer value => .number ⟨decide (value < 0), value.natAbs, 0⟩ none
  | real value =>
    match realToken value with
    | .number decimal places => .number decimal places
    | _ => .null
  | string content => .string (some content)
  | array items => .array (draftsOfItems items) true
  | object fields => .object (draftsOfFields fields) true

def draftsOfItems : List Json → List Draft
  | [] => []
  | item :: rest => draft item :: draftsOfItems rest

def draftsOfFields : List (String × Json) → List (Option String × Draft)
  | [] => []
  | (name, value) :: rest => (some name, draft value) :: draftsOfFields rest

end

/-! Tokens -/

theorem spells_intercalate {parts : List (List Char)} {found : List (List Token)}
    (each : List.Forall₂ Spells parts found) :
    Spells ([','].intercalate parts) ([.comma].intercalate found) := by
  induction each with
  | nil => exact fun _ _ => rfl
  | @cons part lexeme parts found first each ih =>
      cases each with
      | nil => simpa using first
      | @cons next lexeme' parts found second each =>
          intro rest ends
          have comma (text : List Char) : tokens (',' :: text) = .comma :: tokens text :=
            tokens_cons rfl rfl
          rw [List.intercalate_cons_cons, List.intercalate_cons_cons]
          calc
            tokens (part ++ [','] ++ [','].intercalate (next :: parts) ++ rest)
              = tokens (part ++ ',' :: ([','].intercalate (next :: parts) ++ rest)) := by simp
            _ = lexeme ++ .comma :: tokens ([','].intercalate (next :: parts) ++ rest) := by
                rw [first _ rfl, comma]
            _ = lexeme ++ [.comma] ++ [.comma].intercalate (lexeme' :: found) ++ tokens rest := by
                rw [ih rest ends]
                simp

theorem spells_enclosed {opening closing : Char} {opens closes : Token}
    (start : ∀ text, tokens (opening :: text) = opens :: tokens text)
    (close : ∀ text, tokens (closing :: text) = closes :: tokens text)
    (ends : continuesNumber closing = false) {parts : List (List Char)} {found : List (List Token)}
    (each : List.Forall₂ Spells parts found) :
    Spells (enclosed opening closing parts)
      (opens :: ([.comma].intercalate found ++ [closes])) := by
  intro rest _
  have within := spells_intercalate each (closing :: rest) ends
  calc
    tokens (enclosed opening closing parts ++ rest)
      = tokens (opening :: ([','].intercalate parts ++ closing :: rest)) := by simp [enclosed]
    _ = opens :: ([.comma].intercalate found ++ closes :: tokens rest) := by
        rw [start, within, close]
    _ = opens :: ([.comma].intercalate found ++ [closes]) ++ tokens rest := by simp

theorem spells_stringText (content : String) :
    Spells (stringText content) [.string (some content)] := by
  intro rest _
  have body : (content.toList.flatMap escapeChar ++ ['"']) ++ rest =
      content.toList.flatMap escapeChar ++ '"' :: rest := by simp
  refine tokens_cons rfl ?_
  change (readString .start ((content.toList.flatMap escapeChar ++ ['"']) ++ rest)).map _ = _
  rw [body, readString_stringText]
  rfl

theorem spells_field (name : String) {text : List Char} {found : List Token}
    (value : Spells text found) :
    Spells (stringText name ++ ':' :: text) (.string (some name) :: .colon :: found) := by
  intro rest ends
  have colon : tokens (':' :: (text ++ rest)) = .colon :: tokens (text ++ rest) :=
    tokens_cons rfl rfl
  calc
    tokens (stringText name ++ ':' :: text ++ rest)
      = tokens (stringText name ++ ':' :: (text ++ rest)) := by simp
    _ = .string (some name) :: .colon :: tokens (text ++ rest) := by
        rw [spells_stringText name _ rfl, colon]
        rfl
    _ = .string (some name) :: .colon :: found ++ tokens rest := by
        rw [value rest ends]
        rfl

mutual

theorem spells_chars : (json : Json) → Spells json.chars json.lexemes
  | null => fun _ _ => tokens_cons rfl rfl
  | bool true => fun _ _ => tokens_cons rfl rfl
  | bool false => fun _ _ => tokens_cons rfl rfl
  | integer value => spells_integerText value
  | real value => spells_realText value
  | string content => spells_stringText content
  | array items =>
    spells_enclosed (fun _ => tokens_cons rfl rfl) (fun _ => tokens_cons rfl rfl) rfl
      (spells_items items)
  | object fields =>
    spells_enclosed (fun _ => tokens_cons rfl rfl) (fun _ => tokens_cons rfl rfl) rfl
      (spells_fields fields)

theorem spells_items : (items : List Json) →
    List.Forall₂ Spells (charsOfItems items) (lexemesOfItems items)
  | [] => .nil
  | item :: rest => .cons (spells_chars item) (spells_items rest)

theorem spells_fields : (fields : List (String × Json)) →
    List.Forall₂ Spells (charsOfFields fields) (lexemesOfFields fields)
  | [] => .nil
  | (name, value) :: rest => .cons (spells_field name (spells_chars value)) (spells_fields rest)

end

/-! Drafts -/

namespace Draft

/-- What is read first, and what stands behind it. -/
def Reading.Gives {α : Type} {tokens : List Token} (reading : Reading α tokens) (value : α)
    (rest : List Token) : Prop :=
  reading.value = value ∧ reading.rest = rest

theorem Reading.Gives.map {α β : Type} {tokens longer rest : List Token}
    {reading : Reading α tokens} {value : α} (gives : reading.Gives value rest) (change : α → β)
    (longest : tokens.length ≤ longer.length) :
    (reading.map change longest).Gives (change value) rest :=
  ⟨congrArg change gives.1, gives.2⟩

theorem Reading.Gives.exists_eq {α : Type} {tokens rest : List Token} {reading : Reading α tokens}
    {value : α} (gives : reading.Gives value rest) :
    ∃ shorter, reading = ⟨value, rest, shorter⟩ := by
  rcases reading with ⟨value', rest', shorter⟩
  rcases gives with ⟨rfl, rfl⟩
  exact ⟨shorter, rfl⟩

/-- The tokens are read as this value, whatever follows. -/
def Yields (found : List Token) (value : Draft) : Prop :=
  ∀ rest, (readValue (found ++ rest)).Gives value rest

/-- The tokens of a name, a colon and a value. -/
inductive YieldsField : List Token → Option String × Draft → Prop where
  | intro {name : Option String} {found : List Token} {value : Draft}
      (yields : Yields found value) :
      YieldsField (.string name :: .colon :: found) (name, value)

/-- What is read in full does not start with the mark that closes an array. -/
theorem Yields.head {found : List Token} {value : Draft} (yields : Yields found value)
    (rest : List Token) : (found ++ rest).head? ≠ some .closeArray := by
  have whole := (yields [.null]).2
  cases found with
  | nil =>
      rw [List.nil_append, readValue] at whole
      cases whole
  | cons token tail =>
      rintro same
      cases same
      simp [readValue] at whole

theorem readItems_intercalate {found : List (List Token)} {items : List Draft}
    (each : List.Forall₂ Yields found items) (filled : found ≠ []) (rest : List Token) :
    (readItems ([.comma].intercalate found ++ .closeArray :: rest)).Gives (items, true) rest := by
  induction each with
  | nil => exact absurd rfl filled
  | @cons token item found items first others ih =>
      cases others with
      | nil =>
          obtain ⟨shorter, same⟩ := (first (.closeArray :: rest)).exists_eq
          rw [List.intercalate_singleton, readItems, same]
          exact ⟨rfl, rfl⟩
      | @cons next item' found items second others =>
          have more := ih (List.cons_ne_nil _ _)
          have split : [.comma].intercalate (token :: next :: found) ++ .closeArray :: rest =
              token ++ .comma :: ([.comma].intercalate (next :: found) ++ .closeArray :: rest) := by
            simp
          obtain ⟨shorter, same⟩ := (first _).exists_eq
          rw [split, readItems, same]
          exact more.map _ _

theorem readFields_intercalate {found : List (List Token)}
    {fields : List (Option String × Draft)} (each : List.Forall₂ YieldsField found fields)
    (filled : found ≠ []) (rest : List Token) :
    (readFields ([.comma].intercalate found ++ .closeObject :: rest)).Gives (fields, true)
      rest := by
  induction each with
  | nil => exact absurd rfl filled
  | @cons token field found fields first others ih =>
      cases first with
      | @intro name token value yields =>
      cases others with
      | nil =>
          obtain ⟨shorter, same⟩ := (yields (.closeObject :: rest)).exists_eq
          rw [List.intercalate_singleton, List.cons_append, List.cons_append, readFields, same]
          exact ⟨rfl, rfl⟩
      | @cons next field' found fields second others =>
          have more := ih (List.cons_ne_nil _ _)
          have split : [.comma].intercalate ((.string name :: .colon :: token) :: next :: found) ++
                .closeObject :: rest =
              .string name :: .colon :: (token ++
                .comma :: ([.comma].intercalate (next :: found) ++ .closeObject :: rest)) := by
            simp
          obtain ⟨shorter, same⟩ := (yields _).exists_eq
          rw [split, readFields, same]
          exact more.map _ _

theorem yields_array {found : List (List Token)} {items : List Draft}
    (each : List.Forall₂ Yields found items) :
    Yields (.openArray :: ([.comma].intercalate found ++ [.closeArray])) (.array items true) := by
  intro rest
  cases each with
  | nil =>
      change (readValue (.openArray :: .closeArray :: rest)).Gives _ _
      rw [readValue]
      exact ⟨rfl, rfl⟩
  | @cons token item found items first others =>
      have within := readItems_intercalate (.cons first others) (List.cons_ne_nil _ _) rest
      have solid : ([.comma].intercalate (token :: found) ++ .closeArray :: rest).head? ≠
          some .closeArray := by
        cases others with
        | nil =>
            rw [List.intercalate_singleton]
            exact first.head _
        | cons second others =>
            rw [List.intercalate_cons_cons, List.append_assoc, List.append_assoc]
            exact first.head _
      rw [List.cons_append, List.append_assoc, List.singleton_append, readValue]
      · exact within.map _ _
      · intro tail same
        rw [same] at solid
        exact solid rfl

theorem yields_object {found : List (List Token)} {fields : List (Option String × Draft)}
    (each : List.Forall₂ YieldsField found fields) :
    Yields (.openObject :: ([.comma].intercalate found ++ [.closeObject]))
      (.object fields true) := by
  intro rest
  cases each with
  | nil =>
      change (readValue (.openObject :: .closeObject :: rest)).Gives _ _
      rw [readValue]
      exact ⟨rfl, rfl⟩
  | @cons token field found fields first others =>
      have within := readFields_intercalate (.cons first others) (List.cons_ne_nil _ _) rest
      cases first with
      | intro yields =>
      rw [List.cons_append, List.append_assoc, List.singleton_append, readValue]
      · exact within.map _ _
      · intro tail same
        cases others <;> simp at same

end Draft

theorem yields_realToken (value : Float) : Draft.Yields [realToken value] (real value).draft := by
  intro rest
  rw [draft.eq_def, List.singleton_append]
  rcases realToken_cases value with null | ⟨decimal, places, number⟩
  · dsimp only
    rw [null, Draft.readValue]
    exact ⟨rfl, rfl⟩
  · dsimp only
    rw [number, Draft.readValue]
    exact ⟨rfl, rfl⟩

mutual

theorem yields_lexemes : (json : Json) → Draft.Yields json.lexemes json.draft
  | null => fun _ => by
    rw [lexemes, List.singleton_append, Draft.readValue]
    exact ⟨rfl, rfl⟩
  | bool value => fun _ => by
    rw [lexemes, List.singleton_append, Draft.readValue]
    exact ⟨rfl, rfl⟩
  | integer value => fun _ => by
    rw [lexemes, List.singleton_append, Draft.readValue]
    exact ⟨rfl, rfl⟩
  | real value => yields_realToken value
  | string content => fun _ => by
    rw [lexemes, List.singleton_append, Draft.readValue]
    exact ⟨rfl, rfl⟩
  | array items => Draft.yields_array (yields_items items)
  | object fields => Draft.yields_object (yields_fields fields)

theorem yields_items : (items : List Json) →
    List.Forall₂ Draft.Yields (lexemesOfItems items) (draftsOfItems items)
  | [] => .nil
  | item :: rest => .cons (yields_lexemes item) (yields_items rest)

theorem yields_fields : (fields : List (String × Json)) →
    List.Forall₂ Draft.YieldsField (lexemesOfFields fields) (draftsOfFields fields)
  | [] => .nil
  | (_, value) :: rest => .cons (.intro (yields_lexemes value)) (yields_fields rest)

end

/-- The text of a value holds that value and nothing behind it. -/
theorem ofText_render (json : Json) : Draft.ofText json.render = (json.draft, false) := by
  have spelled := spells_chars json [] rfl
  have given := yields_lexemes json (tokens [])
  rw [List.append_nil] at spelled
  rw [Draft.ofText, render, String.toList_ofList, spelled]
  exact Prod.ext given.1 (by dsimp only; rw [given.2, tokens]; rfl)

mutual

theorem isIntact_draft : (json : Json) → json.draft.isIntact = true
  | null => rfl
  | bool _ => rfl
  | integer _ => rfl
  | real value => by
    rw [draft.eq_def]
    dsimp only
    split <;> rfl
  | string _ => rfl
  | array items => by
    rw [draft, Draft.isIntact, areIntact_drafts items]
    rfl
  | object fields => by
    rw [draft, Draft.isIntact, areFieldsIntact_drafts fields]
    rfl

theorem areIntact_drafts : (items : List Json) → Draft.areIntact (draftsOfItems items) = true
  | [] => rfl
  | item :: rest => by
    rw [draftsOfItems, Draft.areIntact, isIntact_draft item, areIntact_drafts rest]
    rfl

theorem areFieldsIntact_drafts : (fields : List (String × Json)) →
    Draft.areFieldsIntact (draftsOfFields fields) = true
  | [] => rfl
  | (_, value) :: rest => by
    rw [draftsOfFields, Draft.areFieldsIntact, isIntact_draft value, areFieldsIntact_drafts rest]
    rfl

end

end SeriesQuery.Json
