import DeadSymbols.Command.Failure
import DeadSymbols.Name.Demangler
import DeadSymbols.Name.Pool
import DeadSymbols.Name.Shared
import DeadSymbols.Report.Render

/-!
Contract: the commands that analyze an image or a dump.

Settings and whitelists are read first, so that a mistake in them shows before any tool is run.
Then the provider is asked for the dump and for the selector references, class names are
resolved, and the report is printed or written.

Owns: the two commands, their options, their log.
Does not own: the command line (`Command.Line`).
-/

namespace DeadSymbols

open DeadSymbols.Host

/-- The options of an analysis. -/
structure AnalysisOptions where
  output : Option String := none
  format : Option Report.Format := none
  whitelistJson : Option String := none
  whitelistFile : Option String := none
  settingsFile : Option String := none
  noBuiltInWhitelist : Bool := false
  noDemangle : Bool := false
  serial : Bool := false
deriving DecidableEq, Repr

/-- The settings with the flags of the options applied. -/
def AnalysisOptions.apply (options : AnalysisOptions) (settings : Settings) : Settings :=
  { settings with
    useBuiltInWhitelist := settings.useBuiltInWhitelist && !options.noBuiltInWhitelist
    demangle := settings.demangle && !options.noDemangle
    parallel := settings.parallel && !options.serial }

namespace Command

/-- Loads the settings from a given file, or from the working directory. -/
def loadSettings (path : Option String) : CommandM Settings := do
  let host ← get
  match path with
  | some path =>
    inContext ("Failed to load config " ++ path) <|
      orFail .settings (Settings.ofFile host path)
  | none =>
    inContext ("Failed to load config from " ++ host.workPath) <|
      orFail .settings (Settings.ofDirectory host host.workPath)

/-- The names that a JSON text lists, if one is given. -/
def jsonWhitelist : Option String → CommandM (List String)
  | some text =>
    inContext "Invalid --whitelist-json" <| orFail .settings (Whitelist.ofJson text.toList)
  | none => return []

/-- The names that a file lists, if one is given. -/
def fileWhitelist : Option String → CommandM (List String)
  | some path => do
    let host ← get
    inContext ("Invalid whitelist file " ++ path) <|
      orFail .settings (Whitelist.ofFile host path)
  | none => return []

/-- Adds up the whitelist in effect from the settings, a JSON text and a file. -/
def gatherWhitelist (settings : Settings) (json file : Option String) : CommandM NameSet := do
  let fromJson ← jsonWhitelist json
  let fromFile ← fileWhitelist file
  return settings.fullWhitelist (fromJson ++ fromFile)

/-- The log lines of reading a dump. -/
def logExtraction (dump selectorText : List Char) (metadata : Metadata) : HostM Unit := do
  if Text.isBlank selectorText then
    addLog .debug "no selector reference text given, scanning the metadata dump" []
  for name in [Dump.classList, Dump.classReferences] do
    if (Dump.sectionBody? dump name).isNone then
      addLog .debug ("no " ++ name ++ " section in dump") []
  addLog .debug "extracted objc metadata"
    [("native", toString metadata.native.length), ("bridged", toString metadata.bridged.length),
     ("selrefs", toString metadata.selectors.size), ("declared", toString metadata.declared.size),
     ("classrefs", toString metadata.referenced.size)]

/-- How a flavor is shown in the log. -/
def flavorLabel : Dump.Flavor → String
  | .native => "Native"
  | .bridged => "Bridged"

/-- The log lines of the records that name no class. -/
def logSkipped (records : List Dump.RawRecord) : HostM Unit :=
  records.forM fun record => do
    if record.outline?.isNone then
      addLog .debug "skipping class record without a name" [("flavor", flavorLabel record.flavor)]

/-- The demangler that the settings ask for. It remembers what the tool has answered. -/
def demanglerFor (settings : Settings) : Name.Demangler (Name.Cache × Host) :=
  if settings.demangle then Name.memo (Name.tool settings.demangleToolPath) else Name.identity

/-- Runs with a demangler that remembers nothing yet. -/
def withFreshCache {α : Type} (action : StateM (Name.Cache × Host) α) : HostM α := fun host =>
  let (result, (_, host)) := action (∅, host)
  (result, host)

/-- Acts on the host beside a cache. -/
def besideCache {α : Type} (action : HostM α) : StateM (Name.Cache × Host) α :=
  fun (cache, host) =>
    let (result, host) := action host
    (result, (cache, host))

/-- The index of records, read in turn or by a pool of workers. Workers that ask the tool share
what it has answered. -/
def indexRecords (settings : Settings) (records : List Dump.RawRecord) :
    StateM (Name.Cache × Host) Index := do
  if settings.parallel then
    let schedule ← besideCache nextSchedule
    if settings.demangle then
      indexRecordsShared (Name.tool settings.demangleToolPath) schedule records
    else indexRecordsPooled Name.identity schedule records
  else indexRecordsWith (demanglerFor settings) records

/-- The index of all records of the metadata, with a pool for each flavor. -/
def indexMetadata (settings : Settings) (metadata : Metadata) :
    StateM (Name.Cache × Host) Index := do
  let native ← indexRecords settings metadata.native
  let bridged ← indexRecords settings metadata.bridged
  return native.merge bridged

/-- Analyzes a dump and a text of selector references. -/
def analyzeTexts (settings : Settings) (whitelist : NameSet) (dump selectorText : List Char) :
    HostM Findings := do
  let metadata := Metadata.ofTexts dump selectorText
  logExtraction dump selectorText metadata
  if metadata.isEmpty then
    addLog .info "dump contains no Objective-C metadata" []
    return .none
  logSkipped (metadata.native ++ metadata.bridged)
  withFreshCache do
    let index ← indexMetadata settings metadata
    besideCache <|
      addLog .debug "built implementation index" [("selectors", toString index.size)]
    let findings ← metadata.compareWith (demanglerFor settings) whitelist index
    besideCache <|
      addLog .info "reachability analysis finished"
        [("classes", toString findings.unusedClasses.length),
         ("methods", toString findings.unusedMethods.length)]
    return findings

/-- Asks a provider for the texts of an image and analyzes them. -/
def analyzeFrom (provider : Provider) (binary : String) (settings : Settings) (whitelist : NameSet) :
    CommandM Findings := do
  let dump ← inContext (provider.name ++ " failed to dump " ++ binary) do
    orFail .provider (← provider.provide .metadata binary)
  let selectorText ←
    inContext (provider.name ++ " failed to read selector references of " ++ binary) do
      orFail .provider (← provider.provide .selectors binary)
  analyzeTexts settings whitelist dump.toList selectorText.toList

/-- Changes the files of the host, or fails. What was changed before a failure stays so. -/
def changeFiles (change : Host → FileTree.Changed) : CommandM Unit := do
  let host ← get
  let (outcome, tree) := change host
  set { host with tree }
  orFail .file outcome

/-- Makes the directory of a file, and those above it. -/
def makeParent (path : String) : CommandM Unit :=
  match Path.parent? path with
  | some parent =>
    if parent.isEmpty then return ()
    else
      inContext ("Failed to create " ++ parent) <|
        changeFiles fun host => host.tree.makeDirectories host.storage host.workDir parent
  | none => return ()

/-- Writes a report to a file. -/
def writeReport (path text : String) : CommandM Unit :=
  inContext ("Failed to write report to " ++ path) <|
    changeFiles fun host => host.tree.write host.storage host.workDir path text.toUTF8

/-- Prints a report, or writes it to a file and prints a summary. -/
def deliverReport (findings : Findings) (context : Report.Context) (format : Report.Format)
    (output : Option String) : CommandM Unit := do
  let text := String.ofList (Report.render format context findings)
  match output with
  | none => print text
  | some path =>
    makeParent path
    writeReport path text
    print ("Unused methods: " ++ toString findings.unusedMethods.length ++ "\n" ++
      "Unused classes: " ++ toString findings.unusedClasses.length ++ "\n" ++
      "Report (" ++ format.name ++ ") written to " ++ path ++ "\n")

/-- The context of a report that is made now. -/
def contextNow (host : Host) (binaryName : String) (digest : Option String) : Report.Context :=
  { binaryName, binaryDigest := digest, generatedAt := host.now
    toolVersion := Report.toolVersion }

/-- Prints or writes the report of a command. -/
def report (options : AnalysisOptions) (settings : Settings) (findings : Findings)
    (binaryName : String) (digest : Option String) : CommandM Unit := do
  let format := settings.chooseFormat options.format options.output
  deliverReport findings (contextNow (← get) binaryName digest) format options.output

/-- The settings and the whitelist in effect. -/
def prepare (options : AnalysisOptions) : CommandM (Settings × NameSet) := do
  let settings := options.apply (← loadSettings options.settingsFile)
  let whitelist ← gatherWhitelist settings options.whitelistJson options.whitelistFile
  return (settings, whitelist)

/-- The name of a dump in a report. -/
def dumpName (path : String) : String := (Path.fileName? path).getD "unnamed-binary"

/-- Analyzes dumps that were captured earlier. -/
def analyzeDump (dump : String) (selectors : Option String) (options : AnalysisOptions) :
    CommandM Findings := do
  let (settings, whitelist) ← prepare options
  let findings ← analyzeFrom (.files dump selectors) dump settings whitelist
  report options settings findings (dumpName dump) none
  return findings

/-- Analyzes an image that has been verified, and reports on it. -/
def scanImage (image : Image) (tool : Option String) (options : AnalysisOptions)
    (settings : Settings) (whitelist : NameSet) : CommandM Findings := do
  if image.staging.isSome then
    addLog .info "analyzing a copy without spaces" [("path", image.analyzedPath)]
  let provider := Provider.tool (tool.or settings.dumpToolPath)
  let findings ← analyzeFrom provider image.analyzedPath settings whitelist
  report options settings findings image.displayName (some image.digest)
  return findings

/-- Analyzes an image with the dump tool. A copy that was made for the tool is removed at the
end, also after a failure. -/
def scan (binary : String) (tool : Option String) (options : AnalysisOptions) :
    CommandM Findings := do
  let (settings, whitelist) ← prepare options
  let path := (← get).absolute binary
  let image ← inContext "Input is not a usable Mach-O binary" do
    orFail .input (← Image.verify path)
  ExceptT.mk do
    let result ← (scanImage image tool options settings whitelist).run
    image.discard
    return result

end Command

end DeadSymbols
