import DeadSymbols.Host.FileError
import DeadSymbols.Host.Program
import DeadSymbols.Path

/-!
Contract: a tree of directories, files and programs, and the operations on it.

A location is the list of names from the root. A path is resolved from a starting location, one
segment after another: every segment asks for a directory to stand in, so a slash after the name
of a file leads nowhere. No entry is a link.

Changes go to a storage, which may refuse them or take a part of a file only. One change is made or
not. Where several are made in turn, a failure leaves those before it: making the directories of a
path stops at the first that cannot be made, and a file that is written is emptied first, then
filled as far as the storage takes it.
-/

namespace DeadSymbols

/-- The names from the root to a place in a tree. -/
abbrev Location : Type := List String

/-- What stands at a location. -/
inductive Entry where
  | directory
  | file (content : ByteArray)
  | program (program : Program)

/-- Whether an entry is a directory. -/
def Entry.isDirectory : Entry → Bool
  | .directory => true
  | _ => false

/-- What can be read from an entry. -/
def Entry.content : Entry → Except FileError ByteArray
  | .directory => .error .isDirectory
  | .file content => .ok content
  | .program _ => .ok Program.script

/-- A tree of directories, files and programs. The root is always there. -/
structure FileTree where
  entries : List (Location × Entry)

/-- What the storage behind a location does not do. -/
inductive Obstacle where
  /-- Nothing can be made there, and no file there can be opened for writing. -/
  | closed (cause : FileError)
  /-- A file there takes so many bytes and no more. -/
  | short (size : Nat) (cause : FileError)
deriving DecidableEq, Repr

/-- The storage behind a tree: the obstacles to a change, by location. -/
abbrev Storage : Type := Location → Option Obstacle

namespace FileTree

/-- The tree that has a root only. -/
def empty : FileTree := ⟨[]⟩

/-- What stands at a location. -/
def get? (tree : FileTree) (location : Location) : Option Entry :=
  if location.isEmpty then some .directory else tree.entries.lookup location

/-- The tree with an entry put at a location, in place of what stood there. -/
def set (tree : FileTree) (location : Location) (entry : Entry) : FileTree :=
  ⟨(location, entry) :: tree.entries.filter (·.1 ≠ location)⟩

/-- The tree without what stands at a location and below it. -/
def removeAt (tree : FileTree) (location : Location) : FileTree :=
  ⟨tree.entries.filter fun entry => !location.isPrefixOf entry.1⟩

/-- The tree with a directory at every place on the way from a location along some names. -/
def withDirectoriesFrom (tree : FileTree) (location : Location) : List String → FileTree
  | [] => tree
  | name :: rest =>
    let place := location ++ [name]
    let grown := if (tree.get? place).isSome then tree else tree.set place .directory
    grown.withDirectoriesFrom place rest

/-- The tree with a directory at a location and at every place above it. -/
def withDirectory (tree : FileTree) (location : Location) : FileTree :=
  tree.withDirectoriesFrom [] location

/-- The tree with an entry put at a location and directories above it. -/
def withEntry (tree : FileTree) (location : Location) (entry : Entry) : FileTree :=
  (tree.withDirectory location.dropLast).set location entry

/-- One step of a path from a location. -/
def step (tree : FileTree) (location : Location) (segment : List Char) :
    Except FileError Location :=
  match tree.get? location with
  | some .directory =>
    if segment.isEmpty || segment = ['.'] then .ok location
    else if segment = ['.', '.'] then .ok location.dropLast
    else
      let next := location ++ [String.ofList segment]
      if (tree.get? next).isSome then .ok next else .error .notFound
  | some _ => .error .notDirectory
  | none => .error .notFound

/-- The steps of several segments in turn. -/
def walk (tree : FileTree) (location : Location) (segments : List (List Char)) :
    Except FileError Location :=
  segments.foldlM tree.step location

/-- Where a path starts: the root for an absolute path. -/
def origin (workDir : Location) (path : String) : Location :=
  if Path.isAbsolute path then [] else workDir

/-- Where a segment leads from a location, if it leads anywhere. -/
def follow (location : Location) (segment : List Char) : Location :=
  if segment.isEmpty || segment = ['.'] then location
  else if segment = ['.', '.'] then location.dropLast
  else location ++ [String.ofList segment]

/-- The location that a path spells, whether or not anything is there. -/
def placeOf (workDir : Location) (path : String) : Location :=
  (Path.segments path.toList).foldl follow (origin workDir path)

/-- The location of what a path leads to. -/
def resolve (tree : FileTree) (workDir : Location) (path : String) : Except FileError Location :=
  if path.isEmpty then .error .notFound
  else if path.toList.contains '\x00' then .error .nulInPath
  else tree.walk (origin workDir path) (Path.segments path.toList)

/-- What a path leads to. -/
def entryAt (tree : FileTree) (workDir : Location) (path : String) : Except FileError Entry := do
  match tree.get? (← tree.resolve workDir path) with
  | some entry => return entry
  | none => .error .notFound

/-- Whether a path leads to a file; programs are files too. -/
def isFile (tree : FileTree) (workDir : Location) (path : String) : Bool :=
  match tree.entryAt workDir path with
  | .ok entry => !entry.isDirectory
  | .error _ => false

/-- Whether a path leads to a directory. -/
def isDirectory (tree : FileTree) (workDir : Location) (path : String) : Bool :=
  match tree.entryAt workDir path with
  | .ok entry => entry.isDirectory
  | .error _ => false

/-- The content of the file that a path leads to. -/
def read (tree : FileTree) (workDir : Location) (path : String) : Except FileError ByteArray := do
  (← tree.entryAt workDir path).content

/-- The text of the file that a path leads to. -/
def readText (tree : FileTree) (workDir : Location) (path : String) : Except FileError String := do
  match String.fromUTF8? (← tree.read workDir path) with
  | some text => return text
  | none => .error .invalidText

/-- Where a path's last name would stand. -/
inductive Target where
  /-- A name in an existing directory; `slashed` when slashes follow it. -/
  | named (location : Location) (slashed : Bool)
  /-- The path ends in `.` or `..`, or is the root. -/
  | unnamed
deriving DecidableEq, Repr

/-- Where a path's last name would stand in a directory. -/
def targetIn (tree : FileTree) (directory : Location) (last : List Char) (slashed : Bool) :
    Except FileError Target :=
  match tree.get? directory with
  | some .directory =>
    if last = ['.'] || last = ['.', '.'] then (tree.step directory last).map fun _ => .unnamed
    else .ok (.named (directory ++ [String.ofList last]) slashed)
  | some _ => .error .notDirectory
  | none => .error .notFound

/-- Where a path's last name would stand, once all that leads to it is resolved. -/
def target (tree : FileTree) (workDir : Location) (path : String) : Except FileError Target := do
  if path.isEmpty then .error .notFound
  else if path.toList.contains '\x00' then .error .nulInPath
  else
    let segments := (Path.segments path.toList).reverse
    let slashes := segments.takeWhile List.isEmpty
    match segments.dropWhile List.isEmpty with
    | [] => return .unnamed
    | last :: before =>
      tree.targetIn (← tree.walk (origin workDir path) before.reverse) last (!slashes.isEmpty)

/-- How changes end, and the tree that they leave, also after a failure. -/
abbrev Changed : Type := Except FileError Unit × FileTree

/-- The end of a change that is made or not. -/
def orKept (tree : FileTree) : Except FileError FileTree → Changed
  | .ok grown => (.ok (), grown)
  | .error error => (.error error, tree)

/-- Opens a file for writing: a new one, or the one that is there, without its content. Gives the
location of the file. -/
def openEmpty (storage : Storage) (tree : FileTree) (workDir : Location) (path : String) :
    Except FileError (Location × FileTree) := do
  match ← tree.target workDir path with
  | .unnamed => .error .isDirectory
  | .named _ true => .error .isDirectory
  | .named location false =>
    match tree.get? location, storage location with
    | some .directory, _ => .error .isDirectory
    | _, some (.closed cause) => .error cause
    | _, _ => return (location, tree.set location (.file .empty))

/-- Fills a file that is open. What the storage takes before it fails stays. -/
def fill (storage : Storage) (tree : FileTree) (location : Location) (content : ByteArray) :
    Changed :=
  match storage location with
  | some (.short size cause) =>
    if content.size ≤ size then (.ok (), tree.set location (.file content))
    else (.error cause, tree.set location (.file (content.extract 0 size)))
  | _ => (.ok (), tree.set location (.file content))

/-- Writes a file, in place of one that is there. -/
def write (storage : Storage) (tree : FileTree) (workDir : Location) (path : String)
    (content : ByteArray) : Changed :=
  match tree.openEmpty storage workDir path with
  | .error error => (.error error, tree)
  | .ok (location, opened) => opened.fill storage location content

/-- Makes a directory. -/
def makeDirectory (storage : Storage) (tree : FileTree) (workDir : Location) (path : String) :
    Except FileError FileTree := do
  match ← tree.target workDir path with
  | .unnamed => .error .alreadyExists
  | .named location _ =>
    match tree.get? location, storage location with
    | some _, _ => .error .alreadyExists
    | none, some (.closed cause) => .error cause
    | none, _ => return tree.set location .directory

/-- Makes a directory, unless it is there. -/
def ensureDirectory (storage : Storage) (tree : FileTree) (workDir : Location) (path : String) :
    Except FileError FileTree :=
  match tree.makeDirectory storage workDir path with
  | .ok grown => .ok grown
  | .error error => if tree.isDirectory workDir path then .ok tree else .error error

/-- Makes a directory and those above it, in at most `depth` levels. -/
def makeDirectoriesTo (storage : Storage) (workDir : Location) : Nat → FileTree → String → Changed
  | 0, tree, _ => (.ok (), tree)
  | depth + 1, tree, path =>
    if path.isEmpty then (.ok (), tree)
    else
      match tree.makeDirectory storage workDir path, Path.parent? path with
      | .error .notFound, some parent =>
        match makeDirectoriesTo storage workDir depth tree parent with
        | (.error error, grown) => (.error error, grown)
        | (.ok _, grown) => grown.orKept (grown.ensureDirectory storage workDir path)
      | _, _ => tree.orKept (tree.ensureDirectory storage workDir path)

/-- Makes a directory and those above it that are missing. -/
def makeDirectories (storage : Storage) (tree : FileTree) (workDir : Location) (path : String) :
    Changed :=
  makeDirectoriesTo storage workDir (path.length + 1) tree path

/-- Removes what a path leads to, and all that stands below it. -/
def removeAll (tree : FileTree) (workDir : Location) (path : String) : FileTree :=
  match tree.resolve workDir path with
  | .ok location => tree.removeAt location
  | .error _ => tree

/-- The path of a location. -/
def pathOf (location : Location) : String :=
  if location.isEmpty then "/" else String.join (location.map ("/" ++ ·))

end FileTree

end DeadSymbols
