import SeriesQuery.Text.Quoted
/-! Why files and settings are refused. -/
namespace SeriesQuery

inductive FileFault where
  | notFound
  | notADirectory
  | isADirectory
  /-- Anything else, in the words of the system. -/
  | other (detail : String)
  deriving DecidableEq, Repr

def FileFault.message : FileFault → String
  | notFound => "No such file or directory (os error 2)"
  | notADirectory => "Not a directory (os error 20)"
  | isADirectory => "Is a directory (os error 21)"
  | other detail => detail

inductive ConfigFault where
  /-- A setting that has to be positive is zero. -/
  | notPositive (setting : String)
  | preloadPathEmpty
  | malformed
  /-- The file that was asked for cannot be read. -/
  | fileUnreadable (path : String) (fault : FileFault)
  deriving DecidableEq, Repr

def ConfigFault.message : ConfigFault → String
  | notPositive setting => setting ++ " must be greater than 0"
  | preloadPathEmpty => "preload paths must not be empty"
  | malformed => "Failed to parse YAML config"
  | fileUnreadable path fault =>
    "Failed to read config file " ++ Text.quoted path.toList ++ ": " ++ fault.message

end SeriesQuery
