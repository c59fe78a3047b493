import SeriesQuery.Pattern.Basic
import SeriesQuery.Pattern.Engine
import SeriesQuery.Text.Hexadecimal
import SeriesQuery.Text.Numeric
/-!
Reading patterns: literals, sets in brackets, escapes, groups with or without a name, alternatives,
counted and uncounted repetitions (lazy ones match the same texts), conditions, and flags for case,
lines and the dot. Looking around, back references and property classes are not part of the
language.
-/
namespace SeriesQuery.Pattern

/-- What a backslash and the characters after it stand for. -/
inductive Escaped where
  | literal (c : Char)
  | set (set : CharSet)
  | condition (holds : Condition)

def isMeta (c : Char) : Bool := "\\.+*?()|[]\x7b\x7d^$#&-~".toList.contains c

/-- Punctuation and controls may be escaped without need, save the angle brackets. -/
def escapable (c : Char) : Bool :=
  isMeta c || (c.toNat < 128 && !c.isAlphanum && c ≠ '<' && c ≠ '>')

/-- A character by its code: so many digits, or any number of them in braces. -/
def readCode (width : Nat) (text : List Char) : Option (Char × List Char) :=
  match text with
  | '\x7b' :: inner =>
    let digits := inner.takeWhile (· ≠ '\x7d')
    match inner.dropWhile (· ≠ '\x7d') with
    | _ :: rest =>
      if digits = [] then none else do return (← Text.charOfCode? (← Text.hexNumber? digits), rest)
    | [] => none
  | text =>
    if text.length < width then none
    else do return (← Text.charOfCode? (← Text.hexNumber? (text.take width)), text.drop width)

def boundaryNames : List (String × Condition) := [
  ("start", .wordStart), ("end", .wordEnd),
  ("start-half", .wordStartHalf), ("end-half", .wordEndHalf)]

/-- A word boundary, of a special kind if braces with letters follow. -/
def readBoundary (text : List Char) : Option (Escaped × List Char) :=
  let isNameChar (c : Char) : Bool := c.isAlpha || c = '-'
  match text with
  | '\x7b' :: inner =>
    match inner with
    | c :: _ =>
      if isNameChar c then
        match inner.dropWhile isNameChar with
        | '\x7d' :: rest => do
          let name := String.ofList (inner.takeWhile isNameChar)
          let (_, holds) ← boundaryNames.find? (·.1 == name)
          return (.condition holds, rest)
        | _ => none
      else some (.condition .wordBoundary, text)
    | [] => none
  | _ => some (.condition .wordBoundary, text)

def readEscape : List Char → Option (Escaped × List Char)
  | [] => none
  | 'd' :: rest => some (.set .digit, rest)
  | 'D' :: rest => some (.set (.complement .digit), rest)
  | 's' :: rest => some (.set .blank, rest)
  | 'S' :: rest => some (.set (.complement .blank), rest)
  | 'w' :: rest => some (.set .word, rest)
  | 'W' :: rest => some (.set (.complement .word), rest)
  | 'x' :: rest => (readCode 2 rest).map fun (c, rest) => (.literal c, rest)
  | 'u' :: rest => (readCode 4 rest).map fun (c, rest) => (.literal c, rest)
  | 'U' :: rest => (readCode 8 rest).map fun (c, rest) => (.literal c, rest)
  | 'a' :: rest => some (.literal '\x07', rest)
  | 'f' :: rest => some (.literal '\x0c', rest)
  | 't' :: rest => some (.literal '\t', rest)
  | 'n' :: rest => some (.literal '\n', rest)
  | 'r' :: rest => some (.literal '\r', rest)
  | 'v' :: rest => some (.literal '\x0b', rest)
  | 'A' :: rest => some (.condition .textStart, rest)
  | 'z' :: rest => some (.condition .textEnd, rest)
  | 'b' :: rest => readBoundary rest
  | 'B' :: rest => some (.condition .notWordBoundary, rest)
  | '<' :: rest => some (.condition .wordStart, rest)
  | '>' :: rest => some (.condition .wordEnd, rest)
  | c :: rest => if escapable c then some (.literal c, rest) else none

/-! Sets in brackets -/

/-- A character or a class inside brackets. -/
def readMember : List Char → Option (Escaped × List Char)
  | [] => none
  | '\\' :: rest => readEscape rest
  | c :: rest => some (.literal c, rest)

def Escaped.set? : Escaped → Option CharSet
  | literal c => some (.single c)
  | set s => some s
  | condition _ => none

/-- A member, or a range between two characters. -/
def readRange (text : List Char) : Option (CharSet × List Char) := do
  let (first, rest) ← readMember text
  match rest with
  | [] => none
  | '-' :: ']' :: _ | '-' :: '-' :: _ => return (← first.set?, rest)
  | '-' :: more =>
    let (second, rest) ← readMember more
    match first, second with
    | .literal low, .literal high => if low ≤ high then some (.range low high, rest) else none
    | _, _ => none
  | _ => return (← first.set?, rest)

/-- A named set such as `[:alpha:]`, after its first bracket. -/
def readNamed (text : List Char) : Option (CharSet × List Char) :=
  match text with
  | ':' :: inner =>
    let (negated, inner) : Bool × List Char := match inner with
      | '^' :: inner => (true, inner)
      | inner => (false, inner)
    match inner.dropWhile (· ≠ ':') with
    | ':' :: ']' :: rest => do
      let set ← CharSet.ofName? (String.ofList (inner.takeWhile (· ≠ ':')))
      return (if negated then .complement set else set, rest)
    | _ => none
  | _ => none

inductive SetOperation where
  | common
  | difference
  | symmetric

def SetOperation.apply : SetOperation → CharSet → CharSet → CharSet
  | common => .common
  | difference => .difference
  | symmetric => .symmetric

/-- The set read so far: the operand being gathered and the operation it will enter. -/
structure OpenSet where
  negated : Bool
  gathered : CharSet
  pending : Option (CharSet × SetOperation)

def OpenSet.add (openSet : OpenSet) (set : CharSet) : OpenSet :=
  { openSet with gathered := .union openSet.gathered set }

def withCase (ignoreCase : Bool) (set : CharSet) : CharSet :=
  if ignoreCase then .anyCase set else set

def OpenSet.operand (openSet : OpenSet) (ignoreCase : Bool) : CharSet :=
  let right := withCase ignoreCase openSet.gathered
  match openSet.pending with
  | some (left, operation) => operation.apply left right
  | none => right

def OpenSet.push (openSet : OpenSet) (ignoreCase : Bool) (operation : SetOperation) : OpenSet :=
  { openSet with gathered := .none, pending := some (openSet.operand ignoreCase, operation) }

def OpenSet.close (openSet : OpenSet) (ignoreCase : Bool) : CharSet :=
  let set := withCase ignoreCase (openSet.operand ignoreCase)
  if openSet.negated then .complement set else set

/-- What may stand first in brackets: the sign of negation, plain hyphens, a plain closing
bracket. -/
def beginSet (text : List Char) : OpenSet × List Char :=
  let (negated, text) : Bool × List Char := match text with
    | '^' :: rest => (true, rest)
    | text => (false, text)
  let hyphens := text.takeWhile (· = '-')
  let rest := text.dropWhile (· = '-')
  if hyphens ≠ [] then (⟨negated, .single '-', none⟩, rest)
  else
    match rest with
    | ']' :: rest => (⟨negated, .single ']', none⟩, rest)
    | rest => (⟨negated, .none, none⟩, rest)

/-- The rest of a set in brackets, up to and with its closing bracket. -/
def readSet (ignoreCase : Bool) (openSet : OpenSet) (text : List Char) :
    Option (CharSet × List Char) :=
  match text with
  | [] => none
  | ']' :: rest => some (openSet.close ignoreCase, rest)
  | '&' :: '&' :: rest => readSet ignoreCase (openSet.push ignoreCase .common) rest
  | '-' :: '-' :: rest => readSet ignoreCase (openSet.push ignoreCase .difference) rest
  | '~' :: '~' :: rest => readSet ignoreCase (openSet.push ignoreCase .symmetric) rest
  | '[' :: inner =>
    match readNamed inner with
    | some (set, rest) =>
      if rest.length < inner.length + 1 then readSet ignoreCase (openSet.add set) rest else none
    | none =>
      let (nested, start) := beginSet inner
      if start.length < inner.length + 1 then
        match readSet ignoreCase nested start with
        | some (set, rest) =>
          if rest.length < inner.length + 1 then readSet ignoreCase (openSet.add set) rest else none
        | none => none
      else none
  | c :: tail =>
    match readRange (c :: tail) with
    | some (set, rest) =>
      if rest.length < tail.length + 1 then readSet ignoreCase (openSet.add set) rest else none
    | none => none
termination_by text.length
decreasing_by all_goals (simp only [List.length_cons] at *; omega)

/-! Repetition -/

/-- A count, with blanks around it, that fits 32 bits. -/
def readCount (text : List Char) : Option (Nat × List Char) :=
  let text := text.dropWhile Text.isBlank
  let digits := text.takeWhile Char.isDigit
  let count := digits.foldl (fun total c => 10 * total + (c.toNat - '0'.toNat)) 0
  if digits = [] ∨ UInt32.size ≤ count then none
  else some (count, (text.dropWhile Char.isDigit).dropWhile Text.isBlank)

/-- The bounds of a counted repetition, after its opening brace. -/
def readBounds (text : List Char) : Option ((Nat × Option Nat) × List Char) := do
  let (least, rest) ← readCount text
  match rest with
  | '\x7d' :: rest => return ((least, some least), rest)
  | ',' :: '\x7d' :: rest => return ((least, none), rest)
  | ',' :: rest =>
    let (most, rest) ← readCount rest
    match rest with
    | '\x7d' :: rest => if least ≤ most then some ((least, some most), rest) else none
    | _ => none
  | _ => none

/-- The mark of a lazy repetition. -/
def skipLazy : List Char → List Char
  | '?' :: rest => rest
  | rest => rest

/-! Groups -/

structure Flags where
  ignoreCase : Bool
  /-- Whether the line anchors hold at every line. -/
  eachLine : Bool
  /-- Whether the dot matches a line feed. -/
  dotAll : Bool

def Flags.plain : Flags := ⟨false, false, false⟩

def Flags.set (flags : Flags) (on : Bool) : Char → Option Flags
  | 'i' => some { flags with ignoreCase := on }
  | 'm' => some { flags with eachLine := on }
  | 's' => some { flags with dotAll := on }
  | 'U' => some flags
  | 'u' => if on then some flags else none
  | _ => none

/-- Flag letters up to a colon or a closing parenthesis; each letter once, one sign of negation. -/
def readFlags (flags : Flags) (on : Bool) (used : List Char) :
    List Char → Option (Flags × Bool × List Char)
  | [] => none
  | ':' :: rest => if used.head? = some '-' then none else some (flags, true, rest)
  | ')' :: rest => if used.head? = some '-' ∨ used = [] then none else some (flags, false, rest)
  | '-' :: rest => if used.contains '-' then none else readFlags flags false ('-' :: used) rest
  | c :: rest =>
    if used.contains c then none else do readFlags (← flags.set on c) on (c :: used) rest

def isNameStart (c : Char) : Bool := c = '_' || Text.isAlphabetic c

def isNameChar (c : Char) : Bool :=
  c = '_' || c = '.' || c = '[' || c = ']' || Text.isAlphanumeric c

def readName (text : List Char) : Option (String × List Char) :=
  let name := text.takeWhile isNameChar
  match name, text.dropWhile isNameChar with
  | first :: _, '>' :: rest => if isNameStart first then some (String.ofList name, rest) else none
  | _, _ => none

/-- What an opening parenthesis begins. -/
inductive Opening where
  | group (flags : Flags) (name : Option String)
  | flags (flags : Flags)

def readOpening (flags : Flags) (text : List Char) : Option (Opening × List Char) :=
  match text with
  | '?' :: 'P' :: '<' :: rest => (readName rest).map fun (name, rest) => (.group flags name, rest)
  | '?' :: '<' :: '=' :: _ | '?' :: '<' :: '!' :: _ => none
  | '?' :: '<' :: rest => (readName rest).map fun (name, rest) => (.group flags name, rest)
  | '?' :: rest => (readFlags flags true [] rest).map fun (changed, opens, rest) =>
    (if opens then .group changed none else .flags changed, rest)
  | rest => some (.group flags none, rest)

/-! Patterns -/

/-- A group being read: its flags, its finished alternatives and the parts of the open one, both
latest first. A part is absent where flags were set, which nothing can repeat. -/
structure Level where
  flags : Flags
  finished : List Pattern
  parts : List (Option Pattern)

def Level.alternative (level : Level) : Pattern :=
  level.parts.foldl (fun rest part => match part with
    | some part => .sequence part rest
    | none => rest) .empty

def Level.close (level : Level) : Pattern :=
  level.finished.foldl (fun rest alternative => .either alternative rest) level.alternative

def Level.add (level : Level) (part : Pattern) : Level :=
  { level with parts := some part :: level.parts }

def Level.bar (level : Level) : Level :=
  { level with finished := level.alternative :: level.finished, parts := [] }

/-- Repeats the part read last. -/
def Level.repeatLast (level : Level) (least : Nat) (most : Option Nat) : Option Level :=
  match level.parts with
  | some part :: parts => some { level with parts := some (.repetition part least most) :: parts }
  | _ => none

def Flags.literal (flags : Flags) (c : Char) : Pattern :=
  .one (withCase flags.ignoreCase (.single c))

def Flags.escaped (flags : Flags) : Escaped → Pattern
  | .literal c => flags.literal c
  | .set set => .one set
  | .condition holds => .condition holds

def Flags.dot (flags : Flags) : Pattern :=
  .one (if flags.dotAll then .complement .none else .notNewline)

/-- What one step of reading does to the open groups, innermost first, and the names in use. -/
structure State where
  inner : Level
  outer : List Level
  names : List String

def State.withInner (state : State) (inner : Level) : State := { state with inner }

def State.enter (state : State) (opening : Opening) : Option State :=
  match opening with
  | .flags flags => some
      { state with inner := { state.inner with flags, parts := none :: state.inner.parts } }
  | .group flags name =>
    if name.any state.names.contains then none
    else some ⟨⟨flags, [], []⟩, state.inner :: state.outer, name.toList ++ state.names⟩

def State.leave (state : State) : Option State :=
  match state.outer with
  | [] => none
  | level :: outer => some ⟨level.add state.inner.close, outer, state.names⟩

def readStep (state : State) (text : List Char) : Option (State × List Char) :=
  let level := state.inner
  match text with
  | [] => none
  | '(' :: rest => do
    let (opening, rest) ← readOpening level.flags rest
    return (← state.enter opening, rest)
  | ')' :: rest => do return (← state.leave, rest)
  | '|' :: rest => some (state.withInner level.bar, rest)
  | '[' :: rest => do
    let (openSet, rest) := beginSet rest
    let (set, rest) ← readSet level.flags.ignoreCase openSet rest
    return (state.withInner (level.add (.one set)), rest)
  | '?' :: rest => do return (state.withInner (← level.repeatLast 0 (some 1)), skipLazy rest)
  | '*' :: rest => do return (state.withInner (← level.repeatLast 0 none), skipLazy rest)
  | '+' :: rest => do return (state.withInner (← level.repeatLast 1 none), skipLazy rest)
  | '\x7b' :: rest => do
    let ((least, most), rest) ← readBounds rest
    return (state.withInner (← level.repeatLast least most), skipLazy rest)
  | '\\' :: rest => do
    let (escaped, rest) ← readEscape rest
    return (state.withInner (level.add (level.flags.escaped escaped)), rest)
  | '.' :: rest => some (state.withInner (level.add level.flags.dot), rest)
  | '^' :: rest =>
    let holds := if level.flags.eachLine then Condition.lineStart else .textStart
    some (state.withInner (level.add (.condition holds)), rest)
  | '$' :: rest =>
    let holds := if level.flags.eachLine then Condition.lineEnd else .textEnd
    some (state.withInner (level.add (.condition holds)), rest)
  | c :: rest => some (state.withInner (level.add (level.flags.literal c)), rest)

def readFrom (state : State) (text : List Char) : Option Pattern :=
  match text with
  | [] => if state.outer.isEmpty then some state.inner.close else none
  | c :: tail =>
    match readStep state (c :: tail) with
    | some (next, rest) => if rest.length < tail.length + 1 then readFrom next rest else none
    | none => none
termination_by text.length

/-- The pattern a text denotes, if it is well formed. -/
def read? (text : String) : Option Pattern :=
  readFrom ⟨⟨.plain, [], []⟩, [], []⟩ text.toList

/-- The engine that the program runs with. -/
def engine : PatternEngine where
  compile text :=
    match read? text with
    | some pattern => .ok ⟨pattern.matchesIn⟩
    | none => .error "pattern is not well formed"

end SeriesQuery.Pattern
