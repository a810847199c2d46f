import DeadSymbols.Analysis
import DeadSymbols.Json.Decoder
import DeadSymbols.Json.Value
import DeadSymbols.Report.Context
import DeadSymbols.Settings

/-!
Contract: the JSON form of the library's values.

Each type has a written form (`toJson`) and a decoder. Fields are written in a fixed order, and
an optional field without a value is left out. Reading accepts what writing produces, and more:
objects with the fields in any order, arrays of the fields, and unknown fields, which are
skipped.

A decoder reads into a draft with a slot per field, and `finish` turns a complete draft into a
value.
-/

namespace DeadSymbols

open DeadSymbols.Json

/-- The slot of a field: what has been read for it, if anything. -/
abbrev Slot (α : Type) : Type := Option α

/-- A field that fills a slot of the draft. -/
def slotField {σ α : Type} (name : String) (required : Bool) (slot : σ → Slot α)
    (fill : σ → α → σ) (value : Decoder α) : RecordField σ :=
  { name, required
    isSet := fun draft => (slot draft).isSome
    read := fun text => (value text).map fun (found, rest) => (fun draft => fill draft found, rest) }

/-! ### Methods and classes -/

/-- The draft of a method. -/
structure MethodDraft where
  selector : Slot String := none
  signature : Slot String := none

/-- How a method is read. -/
def Method.shape : Shape MethodDraft :=
  { title := "struct SelectorImpl"
    start := {}
    fields :=
      [slotField "selector" true (·.selector) (fun draft s => { draft with selector := some s })
        string,
       slotField "signature" true (·.signature) (fun draft s => { draft with signature := some s })
        string] }

/-- Reads a method. -/
def Method.decoder : Decoder Method := fun text =>
  (record Method.shape text).map fun (draft, rest) =>
    ({ selector := draft.selector.getD "", signature := draft.signature.getD "" }, rest)

/-- The written form of a method. -/
def Method.toJson (method : Method) : Value :=
  .object [("selector", .string method.selector), ("signature", .string method.signature)]

/-- The flavors by their names. -/
def Dump.Flavor.byName : List (String × Dump.Flavor) :=
  [("native", .native), ("bridged", .bridged)]

/-- Reads a flavor. -/
def Dump.Flavor.decoder : Decoder Dump.Flavor := variant Dump.Flavor.byName

/-- The name of a flavor. -/
def Dump.Flavor.name : Dump.Flavor → String
  | .native => "native"
  | .bridged => "bridged"

/-- The written form of a flavor. -/
def Dump.Flavor.toJson (flavor : Dump.Flavor) : Value := .string flavor.name

/-- The draft of a class. -/
structure ClassDraft where
  className : Slot String := none
  methods : Slot (List Method) := none

/-- How a class is read. -/
def ClassRecord.shape : Shape ClassDraft :=
  { title := "struct ClassChunk"
    start := {}
    fields :=
      [slotField "class_name" true (·.className) (fun draft s => { draft with className := some s })
        string,
       slotField "methods" true (·.methods) (fun draft ms => { draft with methods := some ms })
        (list Method.decoder)] }

/-- Reads a class. -/
def ClassRecord.decoder : Decoder ClassRecord := fun text =>
  (record ClassRecord.shape text).map fun (draft, rest) =>
    ({ className := draft.className.getD "", methods := draft.methods.getD [] }, rest)

/-- The written form of a class. -/
def ClassRecord.toJson (record : ClassRecord) : Value :=
  .object [("class_name", .string record.className),
    ("methods", .array (record.methods.map Method.toJson))]

/-! ### The index and the findings -/

/-- The draft of an index. -/
structure IndexDraft where
  entries : Slot (NameMap NameSet) := none

/-- How an index is read. -/
def Index.shape : Shape IndexDraft :=
  { title := "struct ImplementationIndex"
    start := {}
    fields :=
      [slotField "entries" true (·.entries) (fun _ entries => { entries := some entries })
        (nameMap nameSet)] }

/-- Reads an index. -/
def Index.decoder : Decoder Index := fun text =>
  (record Index.shape text).map fun (draft, rest) => (⟨draft.entries.getD ∅⟩, rest)

/-- The written form of an index's entries. -/
def Index.entriesJson (index : Index) : Value :=
  .object (index.entries.entries.map fun (selector, names) => (selector, strings names.toList))

/-- The written form of an index. -/
def Index.toJson (index : Index) : Value :=
  .object [("entries", index.entriesJson)]

/-- The draft of findings. -/
structure FindingsDraft where
  unusedClasses : Slot (List String) := none
  unusedMethods : Slot (List String) := none

/-- How findings are read. -/
def Findings.shape : Shape FindingsDraft :=
  { title := "struct UnusedReport"
    start := {}
    fields :=
      [slotField "unused_classes" true (·.unusedClasses)
        (fun draft names => { draft with unusedClasses := some names }) (list string),
       slotField "unused_methods" true (·.unusedMethods)
        (fun draft names => { draft with unusedMethods := some names }) (list string)] }

/-- Reads findings. -/
def Findings.decoder : Decoder Findings := fun text =>
  (record Findings.shape text).map fun (draft, rest) =>
    ({ unusedClasses := draft.unusedClasses.getD [],
       unusedMethods := draft.unusedMethods.getD [] }, rest)

/-- The members of the written form of findings. -/
def Findings.members (findings : Findings) : List (String × Value) :=
  [("unused_classes", strings findings.unusedClasses),
   ("unused_methods", strings findings.unusedMethods)]

/-- The written form of findings. -/
def Findings.toJson (findings : Findings) : Value := .object findings.members

/-! ### Reports -/

/-- Reads a report format. -/
def Report.Format.decoder : Decoder Report.Format := variant Report.Format.byName

/-- The written form of a report format. -/
def Report.Format.toJson (format : Report.Format) : Value := .string format.name

/-- The draft of a report's context. -/
structure ContextDraft where
  binaryName : Slot String := none
  binaryDigest : Slot (Option String) := none
  generatedAt : Slot String := none
  toolVersion : Slot String := none

/-- How a report's context is read. -/
def Report.Context.shape : Shape ContextDraft :=
  { title := "struct ReportMeta"
    start := {}
    fields :=
      [slotField "binary_name" true (·.binaryName)
        (fun draft s => { draft with binaryName := some s }) string,
       slotField "binary_sha256" false (·.binaryDigest)
        (fun draft s => { draft with binaryDigest := some s }) (optional string),
       slotField "generated_at" true (·.generatedAt)
        (fun draft s => { draft with generatedAt := some s }) string,
       slotField "tool_version" true (·.toolVersion)
        (fun draft s => { draft with toolVersion := some s }) string] }

/-- Reads a report's context. -/
def Report.Context.decoder : Decoder Report.Context := fun text =>
  (record Report.Context.shape text).map fun (draft, rest) =>
    ({ binaryName := draft.binaryName.getD ""
       binaryDigest := draft.binaryDigest.getD none
       generatedAt := draft.generatedAt.getD ""
       toolVersion := draft.toolVersion.getD "" }, rest)

/-- The members of the written form of a report's context. -/
def Report.Context.members (context : Report.Context) : List (String × Value) :=
  [("binary_name", .string context.binaryName)] ++
    member? "binary_sha256" (context.binaryDigest.map .string) ++
    [("generated_at", .string context.generatedAt), ("tool_version", .string context.toolVersion)]

/-- The written form of a report's context. -/
def Report.Context.toJson (context : Report.Context) : Value := .object context.members

/-! ### Settings -/

/-- The draft of settings. -/
structure SettingsDraft where
  whitelist : Slot (List String) := none
  useBuiltInWhitelist : Slot Bool := none
  dumpToolPath : Slot (Option String) := none
  demangleToolPath : Slot (Option String) := none
  demangle : Slot Bool := none
  parallel : Slot Bool := none
  reportFormat : Slot (Option Report.Format) := none

/-- How settings are read. No field is required. -/
def Settings.shape : Shape SettingsDraft :=
  { title := "struct SweepConfig"
    start := {}
    fields :=
      [slotField "whitelist" false (·.whitelist)
        (fun draft names => { draft with whitelist := some names }) (list string),
       slotField "use_default_whitelist" false (·.useBuiltInWhitelist)
        (fun draft b => { draft with useBuiltInWhitelist := some b }) boolean,
       slotField "otool_path" false (·.dumpToolPath)
        (fun draft path => { draft with dumpToolPath := some path })
        (optional (stringAs "path string")),
       slotField "swift_demangle_path" false (·.demangleToolPath)
        (fun draft path => { draft with demangleToolPath := some path })
        (optional (stringAs "path string")),
       slotField "demangle" false (·.demangle)
        (fun draft b => { draft with demangle := some b }) boolean,
       slotField "parallel" false (·.parallel)
        (fun draft b => { draft with parallel := some b }) boolean,
       slotField "report_format" false (·.reportFormat)
        (fun draft format => { draft with reportFormat := some format })
        (optional Report.Format.decoder)] }

/-- The settings of a draft, with defaults for the fields that it does not give. -/
def SettingsDraft.finish (draft : SettingsDraft) : Settings :=
  let fallback := Settings.default
  { whitelist := draft.whitelist.getD fallback.whitelist
    useBuiltInWhitelist := draft.useBuiltInWhitelist.getD fallback.useBuiltInWhitelist
    dumpToolPath := draft.dumpToolPath.getD fallback.dumpToolPath
    demangleToolPath := draft.demangleToolPath.getD fallback.demangleToolPath
    demangle := draft.demangle.getD fallback.demangle
    parallel := draft.parallel.getD fallback.parallel
    reportFormat := draft.reportFormat.getD fallback.reportFormat }

/-- Reads settings. -/
def Settings.decoder : Decoder Settings := fun text =>
  (record Settings.shape text).map fun (draft, rest) => (draft.finish, rest)

/-- The written form of settings. -/
def Settings.toJson (settings : Settings) : Value :=
  .object ([("whitelist", strings settings.whitelist),
      ("use_default_whitelist", .boolean settings.useBuiltInWhitelist)] ++
    member? "otool_path" (settings.dumpToolPath.map .string) ++
    member? "swift_demangle_path" (settings.demangleToolPath.map .string) ++
    [("demangle", .boolean settings.demangle), ("parallel", .boolean settings.parallel)] ++
    member? "report_format" (settings.reportFormat.map Report.Format.toJson))

/-! ### Whitelists -/

/-- Reads a whitelist: an array of strings. -/
def Whitelist.decoder : Decoder (List String) := list string

end DeadSymbols
