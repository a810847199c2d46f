import DeadSymbols.Text.Quoted

/-!
Contract: why an operation on files or programs fails, and the wording of each cause.
-/

namespace DeadSymbols

/-- The causes of a failed operation on files or programs. -/
inductive FileError where
  | notFound
  | notDirectory
  | isDirectory
  | alreadyExists
  | denied
  /-- The storage takes no more. -/
  | noSpace
  /-- A path holds the character U+0000. -/
  | nulInPath
  /-- A program name or an argument holds the character U+0000. -/
  | nulInArgument
  /-- The content of a file is not UTF-8 text. -/
  | invalidText
  /-- A directory could not be made at a path of the program's own choice. -/
  | atPath (cause : FileError) (path : String)
deriving DecidableEq, Repr

/-- The wording of a cause. -/
def FileError.message : FileError → String
  | .notFound => "No such file or directory (os error 2)"
  | .notDirectory => "Not a directory (os error 20)"
  | .isDirectory => "Is a directory (os error 21)"
  | .alreadyExists => "File exists (os error 17)"
  | .denied => "Permission denied (os error 13)"
  | .noSpace => "No space left on device (os error 28)"
  | .nulInPath => "file name contained an unexpected NUL byte"
  | .nulInArgument => "nul byte found in provided data"
  | .invalidText => "stream did not contain valid UTF-8"
  | .atPath cause path => cause.message ++ " at path " ++ Text.quoted path

end DeadSymbols
