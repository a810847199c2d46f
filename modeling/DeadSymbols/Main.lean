import DeadSymbols.Command.Run
import DeadSymbols.Report.Clock
import Std.Time.DateTime

/-!
Contract: the command line on a real machine.

The files that a command line names are read into a host, the command runs on that host, and what
it printed and wrote is then printed and written.

Programs are not started from here. The host holds files only, so a dump tool or a demangling tool
counts as missing: a scan takes its texts from the files that stand in for the dump tool, a captured
dump is analyzed from its file, and names are reported as the dump spells them.
-/

namespace DeadSymbols

/-- The environment variables that a command looks at. -/
def usedVariables : List String :=
  ["PATH", "RUST_LOG", "TMPDIR", "MACHSWEEP_OTOOL", "MACHSWEEP_SWIFT_DEMANGLE",
   "MACHSWEEP_FAKE_DUMP", "MACHSWEEP_FAKE_SELREFS"]

/-- The paths that the options of an analysis name. -/
def AnalysisOptions.paths (options : AnalysisOptions) : List String :=
  options.settingsFile.toList ++ options.whitelistFile.toList ++ options.output.toList ++
    (options.output.bind Path.parent?).toList ++ Settings.fileNames

/-- The paths that a request names. -/
def Command.Request.paths : Command.Request → List String
  | .scan binary tool options => binary :: tool.toList ++ options.paths
  | .analyzeDump dump selectors options => dump :: selectors.toList ++ options.paths
  | .listProviders _ => []
  | .showWhitelist _ => []

/-- Adds what is found at a path to a tree. -/
def addFound (workDir : Location) (tree : FileTree) (path : String) : IO FileTree := do
  let location := FileTree.placeOf workDir path
  let file := (← IO.currentDir) / path
  if path.isEmpty then return tree
  else if ← file.isDir then return tree.withDirectory location
  else if ← file.pathExists then
    return tree.withEntry location (.file (← IO.FS.readBinFile file))
  else return tree

/-- The host that a command line runs on. -/
def currentHost (words : List String) : IO Host := do
  let workDir := FileTree.placeOf [] (← IO.currentDir).toString
  let environment ← usedVariables.filterMapM fun name => do
    return (← IO.getEnv name).map fun value => (name, value)
  let named := match Command.parse words with
    | .ok invocation => invocation.request.paths
    | .error _ => []
  let tempDir := (environment.lookup "TMPDIR").getD "/tmp"
  let standIns := [DumpText.metadata, .selectors].filterMap fun text =>
    environment.lookup text.standIn
  let tree ← (tempDir :: named ++ standIns).foldlM (addFound workDir)
    (FileTree.empty.withDirectory workDir)
  let now ← Std.Time.Timestamp.now
  return {
    tree, workDir, environment, tempDir
    freshName := ".tmp" ++ toString (← IO.rand 100000 999999)
    now := Report.timestamp now.toNanosecondsSinceUnixEpoch.val.toNat
    runs := []
    log := []
    printed := "" }

/-- Whether an entry of a tree was not there before. -/
def isNew (before : FileTree) (location : Location) (entry : Entry) : Bool :=
  match before.get? location, entry with
  | some .directory, .directory => false
  | some (.file old), .file new => old.data != new.data
  | _, _ => true

/-- Writes the entries that are new in a tree. -/
def writeNew (before after : FileTree) : IO Unit := do
  for (location, entry) in after.entries.reverse do
    if isNew before location entry then
      match entry with
      | .directory => IO.FS.createDirAll (FileTree.pathOf location)
      | .file content => IO.FS.writeBinFile (FileTree.pathOf location) content
      | .program _ => pure ()

end DeadSymbols

open DeadSymbols in
/-- Runs the program. -/
def main (words : List String) : IO UInt32 := do
  let before ← currentHost words
  let (outcome, after) := Command.run words before
  for line in outcome.log do
    IO.eprintln line.text
  writeNew before.tree after.tree
  IO.print after.printed
  match outcome.failure with
  | some failure => IO.eprint failure
  | none => if outcome.exitCode = 2 then IO.eprint Command.helpText
  return UInt32.ofNat outcome.exitCode
