import DeadSymbols.Codec
import DeadSymbols.Yaml.Node

/-!
Contract: settings and whitelists in YAML.

Every scalar is a text, whatever its style or tag. What is left out, and an empty plain scalar in
place of a list or a mapping, stands for an empty one. Unknown keys are skipped with all that
they hold, and a known key may stand once.
-/

namespace DeadSymbols.Yaml.Node

/-- The texts of no value. -/
def nullTexts : List String := ["~", "null", "Null", "NULL"]

/-- The text of a scalar. -/
def text? : Node → Option String
  | .scalar _ _ text => some text
  | _ => none

/-- The texts of a list of scalars, which may stand elsewhere in the document. -/
def texts? (document : Document) : Node → Option (List String)
  | .sequence items => items.mapM fun item => text? (document.follow item)
  | .scalar _ .plain "" => some []
  | _ => none

/-- The truth value that a text spells. -/
def truth? (text : String) : Option Bool :=
  if ["true", "True", "TRUE"].contains text then some true
  else if ["false", "False", "FALSE"].contains text then some false
  else none

/-- The truth value of a scalar: a plain one, or a literal block with the tag for truth values. -/
def boolean? : Node → Option Bool
  | .scalar _ .plain text => truth? text
  | .scalar (some "tag:yaml.org,2002:bool") .literal text => truth? text
  | _ => none

/-- A value that may be missing. A plain scalar without a tag is missing when it is empty or
spells no value; the tag for no value admits nothing else. -/
def optional? {α : Type} (read : Node → Option α) : Node → Option (Option α)
  | .scalar (some "tag:yaml.org,2002:null") .plain text =>
    if nullTexts.contains text then some none else none
  | .scalar none .plain text =>
    if text = "" || nullTexts.contains text then some none
    else (read (.scalar none .plain text)).map some
  | node => (read node).map some

/-- A report format: a text that names it, or its name as the tag of no value. -/
def format? : Node → Option Report.Format
  | .scalar none _ text => Report.Format.ofName? text
  | .scalar (some tag) .plain text =>
    if text = "" || nullTexts.contains text then
      let name := match tag.toList with
        | '!' :: name => String.ofList name
        | _ => tag
      Report.Format.ofName? name
    else none
  | _ => none

/-- Takes an entry of a mapping into a draft of settings. -/
def addSetting (document : Document) (draft : SettingsDraft) (entry : Node × Node) :
    Option SettingsDraft := do
  let value := document.follow entry.2
  let fillWith {α : Type} (slot : Slot α) (read : Node → Option α) (fill : α → SettingsDraft) :
      Option SettingsDraft :=
    if slot.isSome then none else (read value).map fill
  match ← text? (document.follow entry.1) with
  | "whitelist" =>
    fillWith draft.whitelist (texts? document) fun names => { draft with whitelist := names }
  | "use_default_whitelist" =>
    fillWith draft.useBuiltInWhitelist boolean? fun b => { draft with useBuiltInWhitelist := b }
  | "otool_path" =>
    fillWith draft.dumpToolPath (optional? text?) fun path =>
      { draft with dumpToolPath := some path }
  | "swift_demangle_path" =>
    fillWith draft.demangleToolPath (optional? text?) fun path =>
      { draft with demangleToolPath := some path }
  | "demangle" => fillWith draft.demangle boolean? fun b => { draft with demangle := b }
  | "parallel" => fillWith draft.parallel boolean? fun b => { draft with parallel := b }
  | "report_format" =>
    fillWith draft.reportFormat (optional? format?) fun format =>
      { draft with reportFormat := some format }
  | _ => return draft

end DeadSymbols.Yaml.Node

namespace DeadSymbols.Yaml.Document

/-- The settings that a document spells. -/
def settings? (document : Document) : Option Settings :=
  match document.root with
  | .mapping entries => (entries.foldlM (Node.addSetting document) {}).map SettingsDraft.finish
  | .scalar _ .plain "" => some Settings.default
  | _ => none

/-- The names that a document lists. -/
def names? (document : Document) : Option (List String) := Node.texts? document document.root

end DeadSymbols.Yaml.Document

namespace DeadSymbols

/-- The settings that a YAML text spells. -/
def Settings.ofYaml? (text : List Char) : Option Settings :=
  (Yaml.Document.ofText? text).bind Yaml.Document.settings?

/-- The whitelist that a YAML text spells. -/
def Whitelist.ofYaml? (text : List Char) : Option (List String) :=
  (Yaml.Document.ofText? text).bind Yaml.Document.names?

end DeadSymbols
