import SeriesQuery.Text.Unprintable
/-!
Text in double quotes for messages. The quote and the backslash are escaped, the usual controls have
short names, and what shows nothing of its own is written as its code point.
-/
namespace SeriesQuery.Text

def escapeChar (c : Char) : String :=
  if c = '"' then "\\\""
  else if c = '\\' then "\\\\"
  else if c = '\n' then "\\n"
  else if c = '\r' then "\\r"
  else if c = '\t' then "\\t"
  else if c = '\x00' then "\\0"
  else if isPrintable c then c.toString
  else "\\u\x7b" ++ String.ofList (Nat.toDigits 16 c.toNat) ++ "\x7d"

def quoted (text : List Char) : String :=
  "\"" ++ String.join (text.map escapeChar) ++ "\""

end SeriesQuery.Text
