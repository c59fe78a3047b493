import SeriesQuery.Text.CodePoints
/-! White space in the sense of the Unicode property, and trimming. -/
namespace SeriesQuery.Text

def blanks : CodePoints := [
  (0x9, 0xD), (0x20, 0x20), (0x85, 0x85), (0xA0, 0xA0), (0x1680, 0x1680), (0x2000, 0x200A),
  (0x2028, 0x2029), (0x202F, 0x202F), (0x205F, 0x205F), (0x3000, 0x3000)]

def isBlank (c : Char) : Bool := CodePoints.has c.toNat blanks

def trimStart (text : List Char) : List Char := text.dropWhile isBlank

def trimEnd (text : List Char) : List Char := (text.reverse.dropWhile isBlank).reverse

def trimmed (text : List Char) : List Char := trimEnd (trimStart text)

def trim (text : String) : String := String.ofList (trimmed text.toList)

end SeriesQuery.Text
