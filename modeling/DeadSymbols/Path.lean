/-!
Contract: paths as text, and the names in them.

A path is a text of segments between slashes. Empty segments and the segment `.` say nothing,
save for a `.` at the very start. The remaining segments are the steps of the path. Nothing
here looks at a file system.
-/

namespace DeadSymbols.Path

/-- The segments of a text between slashes. -/
def segments : List Char → List (List Char)
  | [] => [[]]
  | c :: rest =>
    if c = '/' then [] :: segments rest
    else
      match segments rest with
      | [] => [[c]]
      | segment :: more => (c :: segment) :: more

/-- Puts segments together with slashes between them. -/
def joinSegments : List (List Char) → List Char
  | [] => []
  | [segment] => segment
  | segment :: rest => segment ++ '/' :: joinSegments rest

/-- Whether a path starts at the root. -/
def isAbsolute (path : String) : Bool :=
  path.toList.head? = some '/'

/-- Whether a segment at a position is a step. -/
def isStep (position : Nat) (segment : List Char) : Bool :=
  !segment.isEmpty && (segment ≠ ['.'] || position = 0)

/-- The steps of a path, each with its position among the segments. -/
def steps (path : String) : List (Nat × List Char) :=
  (segments path.toList).zipIdx.filterMap fun (segment, position) =>
    if isStep position segment then some (position, segment) else none

/-- The last step of a path, unless it leads upwards or nowhere. -/
def fileName? (path : String) : Option String :=
  match (steps path).getLast? with
  | some (_, segment) =>
    if segment = ['.'] || segment = ['.', '.'] then none else some (String.ofList segment)
  | none => none

/-- What follows the last dot of the file name. A dot that only starts the name does not count. -/
def extension? (path : String) : Option String :=
  match fileName? path with
  | some name =>
    let tail := name.toList.reverse.takeWhile (· ≠ '.')
    if tail.length + 1 < name.length then some (String.ofList tail.reverse) else none
  | none => none

/-- The path without its last step; `none` when it has no step. -/
def parent? (path : String) : Option String :=
  match (steps path).reverse with
  | [] => none
  | [_] => some (if isAbsolute path then "/" else "")
  | _ :: (position, _) :: _ =>
    some (String.ofList (joinSegments ((segments path.toList).take (position + 1))))

/-- The path that leads along the second path from where the first one leads. -/
def join (directory path : String) : String :=
  if isAbsolute path || directory.isEmpty then path
  else if directory.toList.getLast? = some '/' then directory ++ path
  else directory ++ "/" ++ path

/-- Whether a path leads nowhere: it says `.` and nothing else. -/
def isHere (path : String) : Bool :=
  !isAbsolute path && (steps path).map Prod.snd = [['.']]

end DeadSymbols.Path
