import SeriesQuery.Json.Basic
import SeriesQuery.Json.Number
/-! The text of a JSON value: compact, or on lines indented by two blanks a level. -/
namespace SeriesQuery.Json

def hexDigit (value : Nat) : Char := Nat.digitChar (value % 16)

/-- Quote, backslash and controls are escaped; every other character stands for itself. -/
def escapeChar (c : Char) : List Char :=
  if c = '"' then ['\\', '"']
  else if c = '\\' then ['\\', '\\']
  else if c = '\n' then ['\\', 'n']
  else if c = '\r' then ['\\', 'r']
  else if c = '\t' then ['\\', 't']
  else if c = '\x08' then ['\\', 'b']
  else if c = '\x0c' then ['\\', 'f']
  else if c.toNat < 0x20 then ['\\', 'u', '0', '0', hexDigit (c.toNat / 16), hexDigit c.toNat]
  else [c]

def stringText (content : String) : List Char :=
  '"' :: (content.toList.flatMap escapeChar ++ ['"'])

def boolText (value : Bool) : List Char :=
  if value then ['t', 'r', 'u', 'e'] else ['f', 'a', 'l', 's', 'e']

/-- Parts with commas between them, from an opening to a closing mark. -/
def enclosed (opening closing : Char) (parts : List (List Char)) : List Char :=
  opening :: ([','].intercalate parts ++ [closing])

mutual

/-- The compact text. -/
def chars : Json → List Char
  | null => ['n', 'u', 'l', 'l']
  | bool value => boolText value
  | integer value => integerText value
  | real value => realText value
  | string content => stringText content
  | array items => enclosed '[' ']' (charsOfItems items)
  | object fields => enclosed '\x7b' '\x7d' (charsOfFields fields)

def charsOfItems : List Json → List (List Char)
  | [] => []
  | item :: rest => chars item :: charsOfItems rest

def charsOfFields : List (String × Json) → List (List Char)
  | [] => []
  | (name, value) :: rest => (stringText name ++ ':' :: chars value) :: charsOfFields rest

end

def render (json : Json) : String := String.ofList json.chars

/-- A line break and the blanks of the level. -/
def newline (level : Nat) : List Char := '\n' :: List.replicate (2 * level) ' '

/-- Parts on lines of their own; without parts the marks stand together. -/
def enclosedLines (opening closing : Char) (level : Nat) : List (List Char) → List Char
  | [] => [opening, closing]
  | parts =>
    opening :: (newline (level + 1) ++ (',' :: newline (level + 1)).intercalate parts ++
      newline level ++ [closing])

mutual

/-- The text on several lines. -/
def lines (level : Nat) : Json → List Char
  | array items => enclosedLines '[' ']' level (linesOfItems (level + 1) items)
  | object fields => enclosedLines '\x7b' '\x7d' level (linesOfFields (level + 1) fields)
  | null => ['n', 'u', 'l', 'l']
  | bool value => boolText value
  | integer value => integerText value
  | real value => realText value
  | string content => stringText content

def linesOfItems (level : Nat) : List Json → List (List Char)
  | [] => []
  | item :: rest => lines level item :: linesOfItems level rest

def linesOfFields (level : Nat) : List (String × Json) → List (List Char)
  | [] => []
  | (name, value) :: rest =>
    (stringText name ++ ':' :: ' ' :: lines level value) :: linesOfFields level rest

end

def renderLines (json : Json) : String := String.ofList (json.lines 0)

end SeriesQuery.Json
