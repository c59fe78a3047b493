import SeriesQuery.Text.Hexadecimal
import SeriesQuery.Yaml.Basic
/-!
Scalars of YAML text. A line break inside a scalar counts as a blank; of several breaks in a row the
first one is dropped.
-/
namespace SeriesQuery.Yaml

/-- The character with the given hexadecimal digits. -/
def charOfHex? (digits : List Char) : Option Char := (Text.hexNumber? digits).bind Text.charOfCode?

/-- Characters of a scalar; those written by an escape are kept as they are. -/
abbrev Written := List (Char × Bool)

/-- What a run of blanks and breaks stands for: a blank, or one break fewer than there are. -/
def foldRun (run : List Char) : List Char :=
  let breaks := run.count '\n'
  if breaks = 0 then run
  else if breaks = 1 then [' ']
  else List.replicate (breaks - 1) '\n'

/-- A text with its runs of blanks and breaks folded; `run` holds the one that is being met. -/
def foldBreaks (run : List Char) : Written → List Char
  | [] => foldRun run
  | (c, escaped) :: rest =>
    if !escaped && isSpaceOrBreak c then foldBreaks (run ++ [c]) rest
    else foldRun run ++ c :: foldBreaks [] rest

/-- Content up to a single quote; two of them stand for one. -/
def readSingle : List Char → Option (Written × List Char)
  | [] => none
  | '\'' :: '\'' :: rest =>
    (readSingle rest).map fun (written, tail) => (('\'', false) :: written, tail)
  | '\'' :: rest => some ([], rest)
  | c :: rest => (readSingle rest).map fun (written, tail) => ((c, false) :: written, tail)

def shortEscape? (letter : Char) : Option Char :=
  match letter with
  | '0' => some '\x00'
  | 'a' => some '\x07'
  | 'b' => some '\x08'
  | 't' => some '\t'
  | '\t' => some '\t'
  | 'n' => some '\n'
  | 'v' => some '\x0b'
  | 'f' => some '\x0c'
  | 'r' => some '\r'
  | 'e' => some '\x1b'
  | ' ' => some ' '
  | '"' => some '"'
  | '/' => some '/'
  | '\\' => some '\\'
  | 'N' => some '\u0085'
  | '_' => some '\u00a0'
  | 'L' => some '\u2028'
  | 'P' => some '\u2029'
  | _ => none

/-- Content up to a double quote. `skipping` is set between an escaped break and the next
content. -/
def readDouble (skipping : Bool) : List Char → Option (Written × List Char)
  | [] => none
  | '"' :: rest => some ([], rest)
  | '\\' :: '\n' :: rest => readDouble true rest
  | '\\' :: 'x' :: a :: b :: rest => do
    let c ← charOfHex? [a, b]
    let (written, tail) ← readDouble false rest
    return ((c, true) :: written, tail)
  | '\\' :: 'u' :: a :: b :: c :: d :: rest => do
    let c ← charOfHex? [a, b, c, d]
    let (written, tail) ← readDouble false rest
    return ((c, true) :: written, tail)
  | '\\' :: 'U' :: a :: b :: c :: d :: e :: f :: g :: h :: rest => do
    let c ← charOfHex? [a, b, c, d, e, f, g, h]
    let (written, tail) ← readDouble false rest
    return ((c, true) :: written, tail)
  | '\\' :: letter :: rest => do
    let c ← shortEscape? letter
    let (written, tail) ← readDouble false rest
    return ((c, true) :: written, tail)
  | c :: rest =>
    if skipping && isSpace c then readDouble true rest
    else (readDouble false rest).map fun (written, tail) => ((c, false) :: written, tail)

def quoted (written : Written) : Yaml := scalar (String.ofList (foldBreaks [] written)) false

/-- The scalar in quotes that a text starts with. -/
def readQuoted (text : List Char) : Option (Yaml × List Char) :=
  match text with
  | '\'' :: rest => (readSingle rest).map fun (written, tail) => (quoted written, tail)
  | '"' :: rest => (readDouble false rest).map fun (written, tail) => (quoted written, tail)
  | _ => none

def isFlowMark (c : Char) : Bool := c ∈ [',', '[', ']', '\x7b', '\x7d']

/-- Marks that no plain scalar starts with. -/
def isReserved (c : Char) : Bool :=
  isFlowMark c || c ∈ ['#', '&', '*', '!', '|', '>', '\'', '"', '%', '@', '\x60']

/-- Whether a plain scalar starts here, inside or outside brackets. -/
def startsPlain (flow : Bool) (text : List Char) : Bool :=
  match text with
  | [] => false
  | c :: rest =>
    if isSpaceOrBreak c || isReserved c then false
    else if c = '-' then !(rest.head?.any isSpace) && !(rest.head?.all (· = '\n'))
    else if c = '?' || c = ':' then !flow && !(rest.head?.all isSpaceOrBreak)
    else true

/-- Whether the text behind a colon makes it the mark of a key. -/
def endsKey (rest : List Char) : Bool := rest.head?.all isSpaceOrBreak

/--
The text of a plain scalar and the text behind it. It ends before a comment, before the mark of a
key, inside brackets before the marks of brackets, and at the end of a line unless the next lines
continue it.
-/
def spanPlain (flow : Bool) (continues : List Char → Bool) (previous : Char) :
    List Char → List Char × List Char
  | [] => ([], [])
  | c :: rest =>
    if (c = '\n' && !continues rest) || (c = '#' && isSpaceOrBreak previous) ||
        (c = ':' && (endsKey rest || (flow && rest.head?.any isFlowMark))) ||
        (flow && isFlowMark c) then ([], c :: rest)
    else
      let (text, tail) := spanPlain flow continues c rest
      (c :: text, tail)

def trimEnd (text : List Char) : List Char := (text.reverse.dropWhile isSpaceOrBreak).reverse

def plain (text : List Char) : Yaml :=
  scalar (String.ofList (foldBreaks [] ((trimEnd text).map (·, false)))) true

end SeriesQuery.Yaml
