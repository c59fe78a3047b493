/-! YAML documents of scalars, sequences and mappings. -/
namespace SeriesQuery

/-- Plain scalars, those without quotes, may also stand for numbers, truth values and nothing at
all. -/
inductive Yaml where
  | scalar (content : String) (plain : Bool)
  | sequence (items : List Yaml)
  | mapping (entries : List (Yaml × Yaml))

namespace Yaml

/-- What stands where nothing is written. -/
def blank : Yaml := scalar "" true

def isSpace (c : Char) : Bool := c = ' ' || c = '\t'

def isSpaceOrBreak (c : Char) : Bool := isSpace c || c = '\n'

end Yaml

end SeriesQuery
