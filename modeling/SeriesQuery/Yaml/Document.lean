import SeriesQuery.Yaml.Block
/-! Texts of one document. -/
namespace SeriesQuery.Yaml

/-- Characters that may stand in a document. -/
def isAllowed (c : Char) : Bool :=
  c = '\t' || c = '\n' || (' ' ≤ c && c ≤ '~') || c = '\u0085' ||
    ('\u00a0' ≤ c && c ≤ '\ufffd' && c ≠ '\ufeff') || '\uffff' < c

/-- Every break is one character. -/
def unifyBreaks : List Char → List Char
  | [] => []
  | '\r' :: '\n' :: rest => '\n' :: unifyBreaks rest
  | '\r' :: rest => '\n' :: unifyBreaks rest
  | c :: rest => c :: unifyBreaks rest

/-- The text of a document, without the mark that may stand in front of it. -/
def content (text : String) : List Char :=
  unifyBreaks <| match text.toList with
    | '\ufeff' :: rest => rest
    | chars => chars

/-- Number of steps that is enough for any text of that many characters. -/
def fuelFor (length : Nat) : Nat := 4 * length + 16

/-- The node of a document, which may start with a rule. -/
def readRoot (place : Place) : Option (Yaml × Place) :=
  if place.column = 0 && isRule '-' place.text then
    let rest := place.text.drop 3
    match endLine rest with
    | some rest => readNode (fuelFor rest.length) 0 ⟨0, rest⟩
    | none => readInline 0 (rest.dropWhile isSpace)
  else readNode (fuelFor place.text.length) 0 place

/-- Whether nothing follows a document but the rule that ends it. -/
def isOver (place : Place) : Bool :=
  if place.column = 0 && isRule '.' place.text then
    match (endLine (place.text.drop 3)).bind (nextPlace 0 false) with
    | some place => place.text.isEmpty
    | none => false
  else place.text.isEmpty

/-- The document that a text holds, if it holds just one. -/
def ofText? (text : String) : Option Yaml := do
  let chars := content text
  if !chars.all isAllowed then none
  let (document, place) ← readRoot (← nextPlace 0 false chars)
  if isOver (← place.next) then some document else none

end SeriesQuery.Yaml
