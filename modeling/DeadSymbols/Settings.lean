import DeadSymbols.Report.Format
import DeadSymbols.Whitelist

/-!
Contract: the settings of an analysis.

Owns: the settings, their defaults, the names of settings files, the whitelist in effect.
Does not own: their JSON form (`Codec`) and their YAML form (`Yaml.Schema`).
-/

namespace DeadSymbols

/-- The settings of an analysis. -/
structure Settings where
  /-- Further selectors that are taken as used. -/
  whitelist : List String := []
  /-- Whether the built-in whitelist takes part. -/
  useBuiltInWhitelist : Bool := true
  /-- The dump tool to run. -/
  dumpToolPath : Option String := none
  /-- The demangling tool to run. -/
  demangleToolPath : Option String := none
  /-- Whether Swift class names are demangled. -/
  demangle : Bool := true
  /-- Whether records may be read in any order. -/
  parallel : Bool := true
  /-- The format of a report when nothing else decides it. -/
  reportFormat : Option Report.Format := none
deriving DecidableEq, Repr

namespace Settings

/-- The settings when no file gives any. -/
def default : Settings := {}

instance : Inhabited Settings := ⟨default⟩

/-- The names of settings files in a directory, in the order in which they are tried. -/
def fileNames : List String := [".machsweep.json", ".machsweep.yml", ".machsweep.yaml"]

/-- The whitelist in effect: the built-in one if enabled, the configured one, and `extra`. -/
def fullWhitelist (settings : Settings) (extra : List String) : NameSet :=
  let builtIn := if settings.useBuiltInWhitelist then Whitelist.builtIn else []
  NameSet.ofList (builtIn ++ settings.whitelist ++ extra)

/-- The format of a report: as asked for, as configured, as the output's name asks, or text. -/
def chooseFormat (settings : Settings) (asked : Option Report.Format) (output : Option String) :
    Report.Format :=
  (asked.or (settings.reportFormat.or (output.map Report.Format.ofPath))).getD .text

end Settings

end DeadSymbols
