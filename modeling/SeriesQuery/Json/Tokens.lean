import SeriesQuery.Json.StringReader
import SeriesQuery.Json.NumberReader
/-!
The tokens of JSON text. Reading ends at the first place where no token stands, which the last token
marks as broken.
-/
namespace SeriesQuery.Json

def isBlank (c : Char) : Bool := c = ' ' || c = '\t' || c = '\n' || c = '\r'

/-- The token that starts with the given character, and the text behind it. -/
def readToken (c : Char) (rest : List Char) : Option (Token × List Char) :=
  match c, rest with
  | '[', rest => some (.openArray, rest)
  | ']', rest => some (.closeArray, rest)
  | '\x7b', rest => some (.openObject, rest)
  | '\x7d', rest => some (.closeObject, rest)
  | ',', rest => some (.comma, rest)
  | ':', rest => some (.colon, rest)
  | 'n', 'u' :: 'l' :: 'l' :: rest => some (.null, rest)
  | 't', 'r' :: 'u' :: 'e' :: rest => some (.bool true, rest)
  | 'f', 'a' :: 'l' :: 's' :: 'e' :: rest => some (.bool false, rest)
  | '"', rest => (readString .start rest).map fun (content, tail) => (.string content, tail)
  | '-', rest => readNumber true rest
  | c, rest => readNumber false (c :: rest)

theorem length_readToken {c : Char} {text rest : List Char} {token : Token}
    (read : readToken c text = some (token, rest)) : rest.length ≤ text.length := by
  unfold readToken at read
  split at read
  all_goals try
    cases read
    grind
  · obtain ⟨⟨content, tail⟩, found, same⟩ := Option.map_eq_some_iff.mp read
    cases same
    exact Nat.le_of_lt (length_readString found)
  · exact Nat.le_of_lt (length_readNumber read)
  · exact Nat.lt_succ_iff.mp (length_readNumber read)

/-- All tokens of a text, or those before the first break and the mark of it. -/
def tokens : List Char → List Token
  | [] => []
  | c :: rest =>
    if isBlank c then tokens rest
    else
      match read : readToken c rest with
      | some (token, tail) =>
        have := length_readToken read
        token :: tokens tail
      | none => [.broken]
termination_by text => text.length

end SeriesQuery.Json
