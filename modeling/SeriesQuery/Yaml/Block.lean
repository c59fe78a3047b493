import SeriesQuery.Yaml.Flow
/-!
Sequences and mappings by indentation. What belongs to a node starts at the same column or, inside
of it, farther right; a sequence that is the value of a key may start at the column of the key.
-/
namespace SeriesQuery.Yaml

/-- A place in a text: its column and the text from there on. -/
structure Place where
  column : Nat
  text : List Char

/-- Where the next content starts behind blanks, comments and empty lines; tabs do not indent. -/
def nextPlace (column : Nat) (comment : Bool) : List Char → Option Place
  | [] => some ⟨0, []⟩
  | c :: rest =>
    if c = '\n' then nextPlace 0 false rest
    else if comment || c = '#' then nextPlace (column + 1) true rest
    else if c = ' ' then nextPlace (column + 1) false rest
    else if c = '\t' then none
    else some ⟨column, c :: rest⟩

def Place.next (place : Place) : Option Place := nextPlace place.column false place.text

/-- Three marks alone at the start of a line. -/
def isRule (mark : Char) (text : List Char) : Bool :=
  match text with
  | a :: b :: c :: rest => a = mark && b = mark && c = mark && rest.head?.all isSpaceOrBreak
  | _ => false

/-- Whether a document ends here. -/
def Place.isEnd (place : Place) : Bool :=
  place.text.isEmpty || (place.column = 0 && (isRule '-' place.text || isRule '.' place.text))

/-- What is left behind the end of a line that holds nothing but a comment. -/
def endLine : List Char → Option (List Char)
  | [] => some []
  | c :: rest =>
    if isSpace c then endLine rest
    else if c = '\n' then some rest
    else if c = '#' then some ((c :: rest).dropWhile (· ≠ '\n'))
    else none

/-- Whether the lines behind a break continue a plain scalar: they start at a column or farther
right. -/
def continuesAt (least column : Nat) : List Char → Bool
  | [] => false
  | c :: rest =>
    if c = '\n' then continuesAt least 0 rest
    else if c = ' ' then continuesAt least (column + 1) rest
    else if column < least then false
    else if c = '\t' then continuesAt least (column + 1) rest
    else c ≠ '#' && !Place.isEnd ⟨column, c :: rest⟩

def continues (least : Nat) (text : List Char) : Bool := continuesAt least 0 text

/-- Whether an item of a sequence starts here. -/
def isItem (text : List Char) : Bool :=
  match text with
  | '-' :: rest => endsKey rest
  | _ => false

/-- The key that a line starts with and the text behind its mark. -/
def splitKey (text : List Char) : Option (Yaml × List Char) := do
  let line := text.takeWhile (· ≠ '\n')
  let (key, tail) ←
    if startsPlain false line then
      let (content, tail) := spanPlain false (fun _ => false) ' ' line
      pure (plain content, tail)
    else readQuoted line
  match tail.dropWhile isSpace with
  | ':' :: rest =>
    if endsKey rest then some (key, rest ++ text.dropWhile (· ≠ '\n')) else none
  | _ => none

/-- A scalar or a value in brackets, and the line behind it. -/
def readInline (least : Nat) (text : List Char) : Option (Yaml × Place) := do
  let (value, rest) ← match text with
    | '[' :: _ => readFlow (2 * text.length + 2) text
    | '\x7b' :: _ => readFlow (2 * text.length + 2) text
    | '"' :: _ => readQuoted text
    | '\'' :: _ => readQuoted text
    | _ =>
      if startsPlain false text then
        let (content, rest) := spanPlain false (continues least) ' ' text
        some (plain content, rest)
      else none
  return (value, ⟨0, ← endLine rest⟩)

mutual

/-- The node that starts at a column or farther right; `fuel` bounds the number of steps. -/
def readNode (fuel least : Nat) (place : Place) : Option (Yaml × Place) :=
  match fuel with
  | 0 => none
  | fuel + 1 => do
    let place ← place.next
    if place.isEnd || place.column < least then some (blank, place)
    else if isItem place.text then
      let (items, place) ← readItems fuel place.column place
      return (sequence items, place)
    else if (splitKey place.text).isSome then
      let (entries, place) ← readEntries fuel place.column place
      return (mapping entries, place)
    else readInline least place.text

/-- The items that start at a column. -/
def readItems (fuel column : Nat) (place : Place) : Option (List Yaml × Place) :=
  match fuel with
  | 0 => none
  | fuel + 1 => do
    let place ← place.next
    if place.isEnd || place.column < column || (place.column = column && !isItem place.text) then
      some ([], place)
    else if column < place.column then none
    else
      let (item, place) ← readNode fuel (column + 1) ⟨column + 1, place.text.tail⟩
      let (items, place) ← readItems fuel column place
      return (item :: items, place)

/-- The keys that start at a column, with their values. -/
def readEntries (fuel column : Nat) (place : Place) : Option (List (Yaml × Yaml) × Place) :=
  match fuel with
  | 0 => none
  | fuel + 1 => do
    let place ← place.next
    if place.isEnd || place.column < column then some ([], place)
    else if column < place.column then none
    else
      let (key, rest) ← splitKey place.text
      let (value, place) ← readValue fuel column rest
      let (entries, place) ← readEntries fuel column place
      return ((key, value) :: entries, place)

/-- The value behind the mark of a key. -/
def readValue (fuel column : Nat) (text : List Char) : Option (Yaml × Place) :=
  match fuel with
  | 0 => none
  | fuel + 1 =>
    match endLine text with
    | none => readInline (column + 1) (text.dropWhile isSpace)
    | some rest => do
      let place ← nextPlace 0 false rest
      if !place.isEnd && place.column = column && isItem place.text then
        let (items, place) ← readItems fuel column place
        return (sequence items, place)
      else readNode fuel (column + 1) place

end

end SeriesQuery.Yaml
