import DeadSymbols.Host
import DeadSymbols.Text.Space
import DeadSymbols.Text.Utf8

/-!
Contract: where the dump of an image comes from.

A provider gives two texts for an image: the full metadata dump, and the selector references. It
runs the dump tool, or it reads files that hold what the tool printed earlier.
-/

namespace DeadSymbols

open DeadSymbols.Host

/-- Why a text cannot be provided. -/
inductive ProviderError where
  | missingBinary (path : String)
  | dumpFile (path : String) (cause : FileError)
  | spawn (tool : String) (cause : FileError)
  | exit (tool : String) (code : Nat) (errors : String)
deriving DecidableEq, Repr

/-- The wording of an error. -/
def ProviderError.message : ProviderError → String
  | .missingBinary path => "Binary not found at " ++ path
  | .dumpFile path cause => "Failed to read dump file " ++ path ++ ": " ++ cause.message
  | .spawn tool cause => "Dump tool error: failed to spawn " ++ tool ++ ": " ++ cause.message
  | .exit tool code errors =>
    "Dump tool error: " ++ tool ++ " exited with exit status: " ++ toString code ++ ": " ++ errors

/-- A source of dumps. -/
inductive Provider where
  /-- Runs the dump tool, at a given path if there is one. -/
  | tool (path : Option String)
  /-- Reads files. Without a file of selector references the dump serves as one. -/
  | files (dump : String) (selectors : Option String)
deriving DecidableEq, Repr

/-- The two texts of a provider. -/
inductive DumpText where
  | metadata
  | selectors
deriving DecidableEq, Repr

/-- The arguments that make the dump tool print a text. -/
def DumpText.arguments : DumpText → List String
  | .metadata => ["-oV"]
  | .selectors => ["-v", "-s", "__DATA", "__objc_selrefs"]

/-- The variable that names a file to read in place of the tool's output. -/
def DumpText.standIn : DumpText → String
  | .metadata => "MACHSWEEP_FAKE_DUMP"
  | .selectors => "MACHSWEEP_FAKE_SELREFS"

namespace Provider

/-- The name of a provider. -/
def name : Provider → String
  | .tool _ => "otool"
  | .files _ _ => "files"

/-- The dump tool of a host: as given, as the environment says, or at its usual place. -/
def toolPath (host : Host) (path : Option String) : String :=
  (path.or (host.envValue? "MACHSWEEP_OTOOL")).getD "/usr/bin/otool"

/-- Reads a file that holds a dump. -/
def readDump (host : Host) (path : String) : Except ProviderError String :=
  (host.readText path).mapError (.dumpFile path)

/-- What a run of the dump tool has printed. -/
def toolText (tool : String) : Except FileError RunResult → Except ProviderError String
  | .error cause => .error (.spawn tool cause)
  | .ok result =>
    if result.succeeded then .ok (Text.ofBytesLossy result.output)
    else
      .error (.exit tool result.exitCode (Text.trimString (Text.ofBytesLossy result.errors)))

/-- Runs the dump tool on an image. -/
def runTool (tool : String) (arguments : List String) (binary : String) :
    HostM (Except ProviderError String) := do
  addLog .debug "running otool"
    [("tool", tool), ("args", Text.quotedList arguments), ("binary", binary)]
  return toolText tool (← run tool (arguments ++ [binary]))

/-- Provides a text for an image. -/
def provide (provider : Provider) (text : DumpText) (binary : String) :
    HostM (Except ProviderError String) := do
  let host ← get
  match provider with
  | .files dump selectors =>
    return readDump host <|
      match text with
      | .metadata => dump
      | .selectors => selectors.getD dump
  | .tool path =>
    match host.envValue? text.standIn with
    | some file => return readDump host file
    | none =>
      if host.isFile binary then runTool (toolPath host path) text.arguments binary
      else return .error (.missingBinary binary)

end Provider

/-- The providers by their names. -/
abbrev Registry : Type := NameMap Provider

namespace Registry

/-- Adds a provider, in place of one with the same name. -/
def register (registry : Registry) (provider : Provider) : Registry :=
  NameMap.set registry provider.name provider

/-- The names of the providers, ascending. -/
def names (registry : Registry) : List String := (NameMap.keys registry).toList

/-- The providers that need no further arguments. -/
def standard : Registry := register ∅ (.tool none)

end Registry

end DeadSymbols
