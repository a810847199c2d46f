import DeadSymbols.Command.Line
import DeadSymbols.Command.Listing

/-!
Contract: a run of the program on a host.
-/

namespace DeadSymbols.Command

open DeadSymbols.Host

/-- What a run leaves besides the changes of the host. -/
structure Outcome where
  exitCode : Nat
  /-- The failure, as it is shown at the end. -/
  failure : Option String
  /-- The log lines that are shown. -/
  log : List LogLine
deriving DecidableEq, Repr

/-- Carries out a request. -/
def perform : Request → CommandM Unit
  | .scan binary tool options => do let _ ← scan binary tool options
  | .analyzeDump dump selectors options => do let _ ← analyzeDump dump selectors options
  | .listProviders json => listProviders json
  | .showWhitelist json => showWhitelist json

/-- The outcome of a run that carries out nothing. -/
def Outcome.bare (exitCode : Nat) : Outcome := { exitCode, failure := none, log := [] }

/-- The line that gives the version. -/
def versionLine : String := "machsweep " ++ Report.toolVersion ++ "\n"

/-- The text that explains the command line. -/
def helpText : String :=
  "Find unreferenced Objective-C/Swift classes and methods in Mach-O binaries\n\n" ++
    "Usage: machsweep [OPTIONS] <COMMAND>\n\n" ++
    "Commands:\n" ++
    "  scan               Dump a Mach-O binary with otool and report unused classes and methods\n" ++
    "  analyze-dump       Analyze `otool -oV` output captured ahead of time\n" ++
    "  list-providers     List available dump providers\n" ++
    "  default-whitelist  Print the built-in selector whitelist\n\n" ++
    "Options:\n" ++
    "  -v, --verbose  Log debug details to stderr\n" ++
    "  -q, --quiet    Only log errors\n" ++
    "  -h, --help     Print help\n" ++
    "  -V, --version  Print version\n"

/-- Runs the program with the words of a command line. -/
def run (words : List String) : HostM Outcome := do
  match parse words with
  | .error .help =>
    print helpText
    return .bare 0
  | .error .version =>
    print versionLine
    return .bare 0
  | .error .misuse => return .bare 2
  | .ok invocation =>
    let threshold := Threshold.resolve ((← get).envValue? "RUST_LOG") invocation.verbose
      invocation.quiet
    let result ← (perform invocation.request).run
    let log := (← get).log.filter threshold.shows
    match result with
    | .ok _ => return { exitCode := 0, failure := none, log }
    | .error failure => return { exitCode := 1, failure := some failure.trace, log }

end DeadSymbols.Command
