import DeadSymbols.Host
import DeadSymbols.Name.Memo
import DeadSymbols.Text.Space
import DeadSymbols.Text.Utf8

/-!
Contract: where better names for classes come from.

A table holds fixed answers. The tool is asked for mangled Swift names only; it answers by
what it prints, and a tool that fails or prints nothing has no better name.
-/

namespace DeadSymbols.Name

open DeadSymbols.Host

/-- Whether a name is mangled as Swift exposes its classes to Objective-C. -/
def isMangled (name : String) : Bool :=
  ["_Tt", "$s", "_$s"].any fun mark => mark.toList.isPrefixOf name.toList

/-- Has no better name for anything. -/
def identity {σ : Type} : Demangler σ := fun _ => return none

/-- Answers from a table. -/
def table {σ : Type} (names : NameMap String) : Demangler σ := fun name => return names.get? name

/-- The program to ask for a mangled name, with its arguments. -/
def toolCommand (host : Host) (path : Option String) (name : String) : String × List String :=
  match path.or (host.envValue? "MACHSWEEP_SWIFT_DEMANGLE") with
  | some tool => (tool, ["--compact", name])
  | none => ("xcrun", ["swift-demangle", "--compact", name])

/-- What a run of the tool says about a name. -/
def toolAnswer (name : String) (outcome : Except FileError RunResult) : HostM (Option String) := do
  let log (message : String) : HostM Unit :=
    addLog .debug message [("name", Text.quoted name)]
  match outcome with
  | .error error =>
    log ("failed to spawn swift-demangle: " ++ error.message)
    return none
  | .ok result =>
    if !result.succeeded then
      log ("swift-demangle exited with exit status: " ++ toString result.exitCode)
      return none
    let answer := Text.trimString (Text.ofBytesLossy result.output)
    if answer.isEmpty then
      log "swift-demangle produced no output"
      return none
    return some answer

/-- Runs the tool on a mangled name. -/
def askTool (path : Option String) (name : String) : HostM (Option String) := do
  let (program, arguments) := toolCommand (← get) path name
  toolAnswer name (← run program arguments)

/-- Asks another demangler for mangled names, and has no better name for others. -/
def onlyMangled {σ : Type} (inner : Demangler σ) : Demangler σ := fun name =>
  if isMangled name then inner name else return none

/-- Answers by running a tool, for mangled names only. -/
def tool (path : Option String) : Demangler Host := onlyMangled (askTool path)

end DeadSymbols.Name
