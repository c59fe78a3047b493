/-! Texts with marks between their pieces. -/
namespace SeriesQuery.Text

/-- The pieces of a text before, between and behind the marks in it. -/
def pieces (mark : Char) : List Char → List (List Char)
  | [] => [[]]
  | c :: rest =>
    if c = mark then [] :: pieces mark rest
    else
      match pieces mark rest with
      | [] => [[c]]
      | first :: others => (c :: first) :: others

end SeriesQuery.Text
