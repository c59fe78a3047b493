import SeriesQuery.Yaml.Scalar
/-! Sequences and mappings in brackets. -/
namespace SeriesQuery.Yaml

/-- Drops blanks, breaks and comments. -/
def skip (comment : Bool) : List Char → List Char
  | [] => []
  | c :: rest =>
    if comment then skip (c != '\n') rest
    else if isSpaceOrBreak c then skip false rest
    else if c = '#' then skip true rest
    else c :: rest

mutual

/-- A value inside brackets; `fuel` bounds the number of values read. -/
def readFlow (fuel : Nat) (text : List Char) : Option (Yaml × List Char) :=
  match fuel with
  | 0 => none
  | fuel + 1 =>
    match text with
    | '[' :: rest => readFlowItems fuel (skip false rest)
    | '\x7b' :: rest => readFlowEntries fuel (skip false rest)
    | '"' :: _ => readQuoted text
    | '\'' :: _ => readQuoted text
    | _ =>
      if startsPlain true text then
        let (content, tail) := spanPlain true (fun _ => true) ' ' text
        match tail with
        | ':' :: mark :: _ =>
          if isFlowMark mark || mark = '?' then none else some (plain content, tail)
        | _ => some (plain content, tail)
      else none

/-- The value behind a colon, which may be left out. -/
def readFlowValue (fuel : Nat) (text : List Char) : Option (Yaml × List Char) :=
  match fuel, skip false text with
  | 0, _ => none
  | fuel + 1, text =>
    match text with
    | c :: _ => if c = ',' || c = ']' || c = '\x7d' then some (blank, text) else readFlow fuel text
    | [] => none

def readFlowItems (fuel : Nat) (text : List Char) : Option (Yaml × List Char) :=
  match fuel, text with
  | 0, _ => none
  | _, ']' :: rest => some (sequence [], rest)
  | fuel + 1, text => do
    let (first, tail) ← readFlow fuel text
    let (item, tail) ← match skip false tail with
      | ':' :: rest => do
        let (value, tail) ← readFlowValue fuel rest
        pure (mapping [(first, value)], skip false tail)
      | rest => pure (first, rest)
    match tail with
    | ']' :: rest => return (sequence [item], rest)
    | ',' :: rest =>
      match ← readFlowItems fuel (skip false rest) with
      | (sequence items, tail) => return (sequence (item :: items), tail)
      | _ => none
    | _ => none

def readFlowEntries (fuel : Nat) (text : List Char) : Option (Yaml × List Char) :=
  match fuel, text with
  | 0, _ => none
  | _, '\x7d' :: rest => some (mapping [], rest)
  | fuel + 1, text => do
    let (key, tail) ← readFlow fuel text
    let (value, tail) ← match skip false tail with
      | ':' :: rest => do
        let (value, tail) ← readFlowValue fuel rest
        pure (value, skip false tail)
      | rest => pure (blank, rest)
    match tail with
    | '\x7d' :: rest => return (mapping [(key, value)], rest)
    | ',' :: rest =>
      match ← readFlowEntries fuel (skip false rest) with
      | (mapping entries, tail) => return (mapping ((key, value) :: entries), tail)
      | _ => none
    | _ => none

end

end SeriesQuery.Yaml
