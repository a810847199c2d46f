import DeadSymbols.Host
import DeadSymbols.Image.Digest
import DeadSymbols.Image.MachO

/-!
Contract: an image that is ready for the dump tool.

The dump tool cannot handle blanks in a file's name, so an image with such a name is copied to a
temporary directory, under a name with underscores in their place. A copy that fails is removed at
once, with its directory.
-/

namespace DeadSymbols

/-- Why a file cannot be analyzed. -/
inductive InputError where
  | missing (path : String)
  | unreadable (path : String) (cause : FileError)
  | notMachO (path : String)
  | staging (path : String) (cause : FileError)
deriving DecidableEq, Repr

/-- The wording of an error. -/
def InputError.message : InputError → String
  | .missing path => "Binary not found at " ++ path
  | .unreadable path cause => "Failed to read " ++ path ++ ": " ++ cause.message
  | .notMachO path => "Not a Mach-O file: " ++ path
  | .staging path cause => "Failed to stage " ++ path ++ " for analysis: " ++ cause.message

/-- An image that passed the check. -/
structure Image where
  /-- The path as it was given. -/
  path : String
  /-- The path for the dump tool. -/
  analyzedPath : String
  digest : String
  kind : MachO.Kind
  /-- The temporary directory of the copy, if there is one. -/
  staging : Option String
deriving DecidableEq, Repr

namespace Image

open DeadSymbols.Host

/-- The name of the image in a report. -/
def displayName (image : Image) : String := (Path.fileName? image.path).getD image.path

/-- The file name of a copy, when a path's file name holds blanks. -/
def stagedName? (path : String) : Option String :=
  match Path.fileName? path with
  | some name =>
    if name.toList.contains ' ' then
      some (String.ofList (name.toList.map fun c => if c = ' ' then '_' else c))
    else none
  | none => none

/-- The content of an image and its kind, when a path leads to one. -/
def inspect (host : Host) (path : String) : Except InputError (ByteArray × MachO.Kind) :=
  if !host.isFile path then .error (.missing path)
  else
    match host.read path with
    | .error cause => .error (.unreadable path cause)
    | .ok content =>
      match host.imageKind? content with
      | none => .error (.notMachO path)
      | some kind => .ok (content, kind)

/-- The temporary directory of the next copy. -/
def stagingPath (host : Host) : String := Path.join host.tempDir host.freshName

/-- The files of a host once a file's content is copied to the temporary directory, or once the
directory is removed again because the copy failed. -/
def stagedTree (host : Host) (path name : String) (content : ByteArray) :
    Except InputError Unit × FileTree :=
  match host.tree.makeDirectory host.storage host.workDir (stagingPath host) with
  | .error cause => (.error (.staging path (.atPath cause (stagingPath host))), host.tree)
  | .ok made =>
    match made.write host.storage host.workDir (Path.join (stagingPath host) name) content with
    | (.ok _, tree) => (.ok (), tree)
    | (.error cause, tree) =>
      (.error (.staging path cause), tree.removeAll host.workDir (stagingPath host))

/-- Copies a file's content to a temporary directory. Gives the directory and the copy's path. -/
def stage (path name : String) (content : ByteArray) :
    HostM (Except InputError (String × String)) := do
  let host ← get
  let (outcome, tree) := stagedTree host path name content
  set { host with tree }
  match outcome with
  | .error error => return .error error
  | .ok _ =>
    let copy := Path.join (stagingPath host) name
    addLog .debug "staged binary without spaces" [("from", path), ("to", copy)]
    return .ok (stagingPath host, copy)

/-- Checks that a path leads to an image, and makes it ready for the dump tool. -/
def verify (path : String) : HostM (Except InputError Image) := do
  let host ← get
  match inspect host path with
  | .error error => return .error error
  | .ok (content, kind) =>
    let digest := Digest.hexDigest content.toList
    match stagedName? path with
    | none => return .ok { path, analyzedPath := path, digest, kind, staging := none }
    | some name =>
      match ← stage path name content with
      | .error error => return .error error
      | .ok (directory, copy) =>
        return .ok { path, analyzedPath := copy, digest, kind, staging := some directory }

/-- Removes the copy of an image, if there is one. -/
def discard (image : Image) : HostM Unit := do
  match image.staging with
  | none => return ()
  | some directory =>
    modify fun host => { host with tree := host.tree.removeAll host.workDir directory }

end Image

end DeadSymbols
