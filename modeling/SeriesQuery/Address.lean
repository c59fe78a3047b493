import SeriesQuery.Decimal.Basic
import SeriesQuery.Text.Hexadecimal
import SeriesQuery.Text.Pieces
/-! Network addresses of four octets or of eight 16-bit groups, and their text. -/
namespace SeriesQuery

inductive Address where
  | octets (octets : List Nat)
  | groups (groups : List Nat)
  deriving DecidableEq, Repr

namespace Address

def readOctet (text : List Char) : Option Nat :=
  let value := Decimal.digitsValue text
  if text ≠ [] ∧ text.all Decimal.isDigit ∧ (text.head? ≠ some '0' ∨ text.length = 1) ∧
      text.length ≤ 3 ∧ value < 256 then some value
  else none

def readOctets (text : List Char) : Option (List Nat) := do
  let octets ← (Text.pieces '.' text).mapM readOctet
  if octets.length = 4 then some octets else none

def readGroup (text : List Char) : Option Nat :=
  if text ≠ [] ∧ text.length ≤ 4 then Text.hexNumber? text else none

/-- Two groups written as four octets. -/
def readTail (text : List Char) : Option (List Nat) :=
  match readOctets text with
  | some [a, b, c, d] => some [a * 256 + b, c * 256 + d]
  | _ => none

/-- Groups with colons between them; octets may stand for the last two. -/
def readGroupList : List (List Char) → Option (List Nat)
  | [] => some []
  | [last] => (readTail last).or ((readGroup last).map ([·]))
  | piece :: rest => do return (← readGroup piece) :: (← readGroupList rest)

/-- Groups of a text that may be empty. -/
def readSide (text : List Char) : Option (List Nat) :=
  if text = [] then some [] else readGroupList (Text.pieces ':' text)

/-- The text before and behind the first double colon. -/
def splitGap : List Char → Option (List Char × List Char)
  | ':' :: ':' :: rest => some ([], rest)
  | c :: rest => (splitGap rest).map fun (before, behind) => (c :: before, behind)
  | [] => none

/-- Eight groups; a double colon stands for one or more groups of zero. -/
def readGroups (text : List Char) : Option (List Nat) :=
  match splitGap text with
  | none => (readSide text).filter (·.length = 8)
  | some (before, behind) => do
    let left ← readSide before
    let right ← readSide behind
    if '.' ∈ before ∨ 7 < left.length + right.length then none
    else some (left ++ List.replicate (8 - left.length - right.length) 0 ++ right)

def read? (text : String) : Option Address :=
  ((readOctets text.toList).map octets).or ((readGroups text.toList).map groups)

def hexText (value : Nat) : String := String.ofList (Nat.toDigits 16 value)

def octetText (values : List Nat) : String := ".".intercalate (values.map toString)

/-- Number of zeros at the front. -/
def zeroRun (groups : List Nat) : Nat := (groups.takeWhile (· = 0)).length

/-- Start and length of the longest run of zeros, the first one of equals. -/
def longestRun (groups : List Nat) : Nat × Nat :=
  (List.range groups.length).foldl
    (fun best start =>
      let length := zeroRun (groups.drop start)
      if best.2 < length then (start, length) else best)
    (0, 0)

def groupText (groups : List Nat) : String := ":".intercalate (groups.map hexText)

/-- The longest run of two or more zeros is a double colon; mapped octets are written as octets. -/
def renderGroups (groups : List Nat) : String :=
  match groups with
  | [0, 0, 0, 0, 0, 0xFFFF, high, low] =>
    "::ffff:" ++ octetText [high / 256, high % 256, low / 256, low % 256]
  | _ =>
    let (start, length) := longestRun groups
    if 1 < length then
      groupText (groups.take start) ++ "::" ++ groupText (groups.drop (start + length))
    else groupText groups

def render : Address → String
  | octets values => octetText values
  | groups values => renderGroups values

end Address

end SeriesQuery
