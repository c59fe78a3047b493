import SeriesQuery.Text.Hexadecimal
/-!
The content of JSON strings. Escaped characters outside the basic plane are written as two halves of
a surrogate pair; where a half stands alone the string is well formed but has no content.
-/
namespace SeriesQuery.Json

/-- The content of a string as far as it was read, latest character first. -/
structure Content where
  reversed : List Char
  /-- The first half of a surrogate pair whose second half has to follow. -/
  half : Option Nat
  paired : Bool

namespace Content

def start : Content := ⟨[], none, true⟩

def push (content : Content) (c : Char) : Content :=
  ⟨c :: content.reversed, none, content.paired && content.half.isNone⟩

def isHighHalf (unit : Nat) : Bool := 0xD800 ≤ unit && unit < 0xDC00

def isLowHalf (unit : Nat) : Bool := 0xDC00 ≤ unit && unit < 0xE000

/-- Adds an escaped 16-bit unit. -/
def pushUnit (content : Content) (unit : Nat) : Content :=
  match content.half with
  | some high =>
    if isLowHalf unit then
      let point := 0x10000 + (high - 0xD800) * 0x400 + (unit - 0xDC00)
      ⟨Char.ofNat point :: content.reversed, none, content.paired⟩
    else if isHighHalf unit then ⟨content.reversed, some unit, false⟩
    else ⟨Char.ofNat unit :: content.reversed, none, false⟩
  | none =>
    if isHighHalf unit then ⟨content.reversed, some unit, content.paired⟩
    else if isLowHalf unit then ⟨content.reversed, none, false⟩
    else content.push (Char.ofNat unit)

def finish (content : Content) : Option String :=
  if content.paired ∧ content.half = none then some (String.ofList content.reversed.reverse)
  else none

end Content

/-- The character that a backslash and a letter stand for. -/
def shortEscape? (letter : Char) : Option Char :=
  match letter with
  | '"' => some '"'
  | '\\' => some '\\'
  | '/' => some '/'
  | 'b' => some '\x08'
  | 'f' => some '\x0c'
  | 'n' => some '\n'
  | 'r' => some '\r'
  | 't' => some '\t'
  | _ => none

/-- The content up to the closing quote, and the text behind it. -/
def readString (content : Content) : List Char → Option (Option String × List Char)
  | [] => none
  | '"' :: rest => some (content.finish, rest)
  | '\\' :: 'u' :: a :: b :: c :: d :: rest =>
    match Text.hexNumber? [a, b, c, d] with
    | some unit => readString (content.pushUnit unit) rest
    | none => none
  | '\\' :: letter :: rest =>
    match shortEscape? letter with
    | some c => readString (content.push c) rest
    | none => none
  | c :: rest => if c.toNat < 0x20 ∨ c = '\\' then none else readString (content.push c) rest

theorem length_readString {content : Content} {text rest : List Char} {result : Option String}
    (read : readString content text = some (result, rest)) : rest.length < text.length := by
  fun_induction readString content text generalizing rest with
  | case1 => simp at read
  | case2 => simp_all
  | case3 _ _ _ _ _ _ _ _ ih => exact Nat.lt_add_right 6 (ih read)
  | case4 => simp at read
  | case5 _ _ _ _ _ _ ih => exact Nat.lt_add_right 2 (ih read)
  | case6 => simp at read
  | case7 => simp at read
  | case8 _ _ _ _ _ _ _ ih => exact Nat.lt_add_right 1 (ih read)

end SeriesQuery.Json
