import SeriesQuery.Text.Word
import SeriesQuery.Text.Blank
import SeriesQuery.Text.CaseFolding
/-! Sets of characters as patterns describe them. -/
namespace SeriesQuery.Pattern

inductive CharSet where
  | none
  | range (low high : Char)
  | digit
  | blank
  | word
  | union (a b : CharSet)
  | common (a b : CharSet)
  | complement (a : CharSet)
  /-- Closed under change of case. -/
  | anyCase (a : CharSet)
  deriving Repr

namespace CharSet

def single (c : Char) : CharSet := range c c

def has : CharSet → Char → Bool
  | none, _ => false
  | range low high, c => low ≤ c && c ≤ high
  | digit, c => Text.isDecimalDigit c
  | blank, c => Text.isBlank c
  | word, c => Text.isWordChar c
  | union a b, c => a.has c || b.has c
  | common a b, c => a.has c && b.has c
  | complement a, c => !a.has c
  | anyCase a, c => (Text.caseCounterparts c.toNat).any fun code => a.has (Char.ofNat code)

def difference (a b : CharSet) : CharSet := common a (complement b)

def symmetric (a b : CharSet) : CharSet := union (difference a b) (difference b a)

def ofRanges (ranges : List (Char × Char)) : CharSet :=
  ranges.foldr (fun (low, high) rest => union (range low high) rest) none

/-- Every character but the line feed. -/
def notNewline : CharSet := complement (single '\n')

/-- Named sets of ASCII characters. -/
def named : List (String × List (Char × Char)) := [
  ("alnum", [('0', '9'), ('A', 'Z'), ('a', 'z')]), ("alpha", [('A', 'Z'), ('a', 'z')]),
  ("ascii", [('\x00', '\x7f')]), ("blank", [('\t', '\t'), (' ', ' ')]),
  ("cntrl", [('\x00', '\x1f'), ('\x7f', '\x7f')]), ("digit", [('0', '9')]),
  ("graph", [('!', '~')]), ("lower", [('a', 'z')]), ("print", [(' ', '~')]),
  ("punct", [('!', '/'), (':', '@'), ('[', '\x60'), ('\x7b', '~')]),
  ("space", [('\t', '\r'), (' ', ' ')]), ("upper", [('A', 'Z')]),
  ("word", [('0', '9'), ('A', 'Z'), ('_', '_'), ('a', 'z')]),
  ("xdigit", [('0', '9'), ('A', 'F'), ('a', 'f')])]

def ofName? (name : String) : Option CharSet :=
  (named.find? (·.1 == name)).map fun entry => ofRanges entry.2

end CharSet

end SeriesQuery.Pattern
