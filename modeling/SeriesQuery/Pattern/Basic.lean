import SeriesQuery.Pattern.CharSet
/-!
Patterns and the search for one in a text.

A pattern moves a set of positions to the set of positions it can reach from them, so alternatives
need no order and a repetition stops once its set grows no more.
-/
namespace SeriesQuery

/-- Conditions on a position that take up no text. -/
inductive Pattern.Condition where
  | textStart
  | textEnd
  | lineStart
  | lineEnd
  | wordBoundary
  | notWordBoundary
  | wordStart
  | wordEnd
  /-- No word character before. -/
  | wordStartHalf
  /-- No word character after. -/
  | wordEndHalf
  deriving DecidableEq, Repr

inductive Pattern where
  | empty
  | one (set : Pattern.CharSet)
  | condition (holds : Pattern.Condition)
  | sequence (first second : Pattern)
  | either (left right : Pattern)
  | repetition (inner : Pattern) (least : Nat) (most : Option Nat)
  deriving Repr

namespace Pattern

abbrev Positions := List Nat

def join (a b : Positions) : Positions := a ++ b.filter fun position => !a.contains position

def wordAt (text : Array Char) (position : Nat) : Bool :=
  match text[position]? with
  | some c => Text.isWordChar c
  | none => false

def wordBefore (text : Array Char) (position : Nat) : Bool :=
  position ≠ 0 && wordAt text (position - 1)

def Condition.holdsAt (text : Array Char) (position : Nat) : Condition → Bool
  | textStart => position = 0
  | textEnd => position = text.size
  | lineStart => position = 0 || text[position - 1]? == some '\n'
  | lineEnd => position = text.size || text[position]? == some '\n'
  | wordBoundary => wordBefore text position != wordAt text position
  | notWordBoundary => wordBefore text position == wordAt text position
  | wordStart => !wordBefore text position && wordAt text position
  | wordEnd => wordBefore text position && !wordAt text position
  | wordStartHalf => !wordBefore text position
  | wordEndHalf => !wordAt text position

/-- Applies the step so many times. -/
def times (step : Positions → Positions) : Nat → Positions → Positions
  | 0, positions => positions
  | count + 1, positions => times step count (step positions)

/-- Adds what up to so many steps reach; a set that no longer grows is left as it is. -/
def grow (step : Positions → Positions) : Nat → Positions → Positions
  | 0, positions => positions
  | count + 1, positions =>
    let grown := join positions (step positions)
    if grown.length = positions.length then positions else grow step count grown

/-- The positions reached by matching the pattern from one of the given positions. -/
def advance (text : Array Char) : Pattern → Positions → Positions
  | empty, positions => positions
  | one set, positions => positions.filterMap fun position =>
    match text[position]? with
    | some c => if set.has c then some (position + 1) else none
    | none => none
  | condition holds, positions => positions.filter fun position => holds.holdsAt text position
  | sequence first second, positions => second.advance text (first.advance text positions)
  | either left right, positions =>
    join (left.advance text positions) (right.advance text positions)
  | repetition inner least most, positions =>
    let needed := times (inner.advance text) least positions
    let more := match most with
      | some most => most - least
      | none => text.size + 1
    grow (inner.advance text) more needed

/-- Whether some part of the text matches. -/
def matchesIn (pattern : Pattern) (text : String) : Bool :=
  let chars := text.toList.toArray
  pattern.advance chars (List.range (chars.size + 1)) ≠ []

end Pattern

end SeriesQuery
