import SeriesQuery.Failure.Config
import SeriesQuery.Text.Pieces
/-! Files under one directory, read by paths that start there. -/
namespace SeriesQuery

/-- The names that lead to a file. -/
abbrev FilePath := List String

structure Files where
  contents : List (FilePath × String)

namespace Files

/-- The names in a path, empty ones included. -/
def names (path : String) : List String := (Text.pieces '/' path.toList).map String.ofList

def ofList (contents : List (String × String)) : Files :=
  ⟨contents.map fun (path, content) =>
    ((names path).filter fun name => name ≠ "" ∧ name ≠ ".", content)⟩

def content? (files : Files) (path : FilePath) : Option String := files.contents.lookup path

/-- The top is a directory, and so is every place that leads on to a file. -/
def isDirectory (files : Files) (path : FilePath) : Bool :=
  path.isEmpty || files.contents.any fun entry => path.isPrefixOf entry.1 && path != entry.1

/-- One step from a place; only a directory leads on. -/
def walk (files : Files) (place : FilePath) (name : String) : Except FileFault FilePath :=
  if !files.isDirectory place then .error .notADirectory
  else if name = "" ∨ name = "." then .ok place
  else if name = ".." then if place.isEmpty then .error .notFound else .ok place.dropLast
  else
    let next := place ++ [name]
    if files.isDirectory next || (files.content? next).isSome then .ok next else .error .notFound

def readAt (files : Files) (place : FilePath) : Except FileFault String :=
  match files.content? place with
  | some content => .ok content
  | none => .error .isADirectory

/-- The content of the file at a path; paths from the root lead nowhere. -/
def read (files : Files) (path : String) : Except FileFault String :=
  match names path with
  | "" :: _ => .error .notFound
  | names => do files.readAt (← names.foldlM files.walk [])

end Files

end SeriesQuery
