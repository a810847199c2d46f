import DeadSymbols.Host
import DeadSymbols.Yaml.Schema

/-!
Contract: settings and whitelists from files.

A file whose extension is `yml` or `yaml` holds YAML, every other file JSON.
-/

namespace DeadSymbols

/-- Why settings or a whitelist cannot be had. -/
inductive SettingsError where
  | read (path : String) (cause : FileError)
  | json (path : String) (cause : Json.Problem)
  | yaml (path : String)
  | invalidWhitelist (cause : Json.Problem)
deriving DecidableEq, Repr

/-- What is said about a text that is not YAML, or is not of the expected shape. -/
def yamlMessage : String := "<YAML>"

/-- The wording of an error. -/
def SettingsError.message : SettingsError → String
  | .read path cause => "Failed to read " ++ path ++ ": " ++ cause.message
  | .json path cause => "Failed to parse JSON in " ++ path ++ ": " ++ cause.message
  | .yaml path => "Failed to parse YAML in " ++ path ++ ": " ++ yamlMessage
  | .invalidWhitelist cause =>
    "Selector whitelist must be a JSON array of strings: " ++ cause.message

/-- Whether a file holds YAML, by its name. -/
def isYamlPath (path : String) : Bool :=
  match Path.extension? path with
  | some extension => extension = "yml" || extension = "yaml"
  | none => false

/-- Reads a file as text. -/
def readSettingsText (host : Host) (path : String) : Except SettingsError String :=
  (host.readText path).mapError (.read path)

/-- The settings in a file. -/
def Settings.ofFile (host : Host) (path : String) : Except SettingsError Settings := do
  let text ← readSettingsText host path
  if isYamlPath path then
    match Settings.ofYaml? text.toList with
    | some settings => return settings
    | none => .error (.yaml path)
  else (Json.decode Settings.decoder text.toList).mapError (.json path)

/-- The settings of a directory: those in the first settings file, or the default. -/
def Settings.ofDirectory (host : Host) (directory : String) : Except SettingsError Settings :=
  match (Settings.fileNames.map (Path.join directory)).find? host.isFile with
  | some path => Settings.ofFile host path
  | none => .ok Settings.default

/-- The whitelist that a JSON text spells. -/
def Whitelist.ofJson (text : List Char) : Except SettingsError (List String) :=
  (Json.decode Whitelist.decoder text).mapError .invalidWhitelist

/-- The whitelist in a file. -/
def Whitelist.ofFile (host : Host) (path : String) : Except SettingsError (List String) := do
  let text ← readSettingsText host path
  if isYamlPath path then
    match Whitelist.ofYaml? text.toList with
    | some names => return names
    | none => .error (.yaml path)
  else Whitelist.ofJson text.toList

end DeadSymbols
