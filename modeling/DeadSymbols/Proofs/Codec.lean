import DeadSymbols.Codec
import DeadSymbols.Proofs.Json.Reading

/-!
Contract: the values of the library and their JSON form.

Every decoder reads the written form of every value of its type back, in every layout. A record is
read field by field: a field that is written fills its slot of the draft, and an optional field that
is left out leaves its slot empty, which is how its absence is read. Names and signatures of an index
are written in ascending order, and putting them back one after another gives the index again.

Owns: one `reads` law per type, decoding what was written.
-/

namespace DeadSymbols

open DeadSymbols.Json

variable {σ α : Type} {json : Value}

/-! ### Fields -/

/-- A field that is written fills its slot. -/
theorem takes_slotField {shape : Shape σ} {name : String} {required : Bool} {slot : σ → Slot α}
    {fill : σ → α → σ} {decoder : Decoder α} {draft : σ} {value : α}
    (found : shape.fields.find? (·.name = name) = some (slotField name required slot fill decoder))
    (fresh : slot draft = none) (reads : Reads decoder json value) :
    Takes shape.member draft name json (fill draft value) := by
  have unset : (slotField name required slot fill decoder).isSet draft = false := by
    simp only [slotField, fresh, Option.isSome_none]
  have update : Reads (slotField name required slot fill decoder).read json
      (fun draft => fill draft value) := by
    intro gap text rest blank spells
    simp only [slotField, reads gap text rest blank spells]
    rfl
  exact Shape.takes_member found unset update

/-- An optional field is written when it has a value, and then fills its slot. -/
theorem fills_member? {shape : Shape σ} {name : String} {required : Bool}
    {slot : σ → Slot (Option α)} {fill : σ → Option α → σ} {decoder : Decoder α} {draft after : σ}
    {value : Option α} {toJson : α → Value}
    (found : shape.fields.find? (·.name = name) =
      some (slotField name required slot fill (optional decoder)))
    (fresh : slot draft = none) (reads : ∀ value, Reads decoder (toJson value) value)
    (present : ∀ value, toJson value ≠ .null)
    (filled : value.elim draft (fun value => fill draft (some value)) = after) :
    Fills shape.member draft (member? name (value.map toJson)) after := by
  subst filled
  cases value with
  | none => exact .nil draft
  | some value =>
      exact .cons (takes_slotField found fresh ((reads value).optional (present value))) (.nil _)

/-! ### Methods and classes -/

theorem Method.reads (method : Method) : Reads Method.decoder method.toJson method := by
  intro gap text rest blank spells
  have fills : Fills Method.shape.member Method.shape.start
      [("selector", .string method.selector), ("signature", .string method.signature)]
      { selector := some method.selector, signature := some method.signature } := by
    refine .cons (takes_slotField rfl rfl (reads_string method.selector)) ?_
    exact .cons (takes_slotField rfl rfl (reads_string method.signature)) (.nil _)
  rw [Method.decoder, reads_record fills rfl gap text rest blank spells]
  rfl

theorem ClassRecord.reads (record : ClassRecord) :
    Reads ClassRecord.decoder record.toJson record := by
  intro gap text rest blank spells
  have methods : Reads (list Method.decoder) (.array (record.methods.map Method.toJson))
      record.methods := by
    apply reads_list
    rw [List.forall₂_map_left_iff, List.forall₂_same]
    exact fun method _ => method.reads
  have fills : Fills ClassRecord.shape.member ClassRecord.shape.start
      [("class_name", .string record.className),
        ("methods", .array (record.methods.map Method.toJson))]
      { className := some record.className, methods := some record.methods } := by
    refine .cons (takes_slotField rfl rfl (reads_string record.className)) ?_
    exact .cons (takes_slotField rfl rfl methods) (.nil _)
  rw [ClassRecord.decoder, reads_record fills rfl gap text rest blank spells]
  rfl

/-! ### The index and the findings -/

/-- Entries that are put one after another into a map. -/
theorem fills_entries {β : Type} {decoder : Decoder β} {toJson : β → Value}
    (reads : ∀ value, Reads decoder (toJson value) value) (entries : List (String × β))
    (map : NameMap β) :
    Fills (mapMember decoder) map (entries.map fun entry => (entry.1, toJson entry.2))
      (entries.foldl (fun map entry => map.set entry.1 entry.2) map) := by
  induction entries generalizing map with
  | nil => exact .nil map
  | cons entry later inductionHypothesis =>
      exact .cons ((reads entry.2).takes_mapMember map entry.1) (inductionHypothesis _)

theorem get?_foldl_set {β : Type} {entries : List (String × β)}
    (distinct : (entries.map Prod.fst).Nodup) (map : NameMap β) (name : String) :
    (entries.foldl (fun map entry => map.set entry.1 entry.2) map).get? name =
      (entries.lookup name).or (map.get? name) := by
  induction entries generalizing map with
  | nil => rfl
  | cons entry later inductionHypothesis =>
      obtain ⟨key, value⟩ := entry
      obtain ⟨absent, laterDistinct⟩ := List.nodup_cons.mp distinct
      rw [List.foldl_cons, inductionHypothesis laterDistinct, List.lookup_cons]
      by_cases same : name = key
      · subst same
        have notLater : later.lookup name = none := by
          rw [List.lookup_eq_none_iff]
          intro entry member
          rw [bne_iff_ne]
          rintro rfl
          exact absent (List.mem_map.mpr ⟨entry, member, rfl⟩)
        rw [notLater, NameMap.get?_set_same, beq_self_eq_true]
        rfl
      · rw [NameMap.get?_set_other same, beq_false_of_ne same]

/-- The entries of a map, put one after another into an empty one, give the map again. -/
theorem foldl_set_entries {β : Type} (map : NameMap β) :
    map.entries.foldl (fun map entry => map.set entry.1 entry.2) ∅ = map := by
  apply NameMap.ext
  intro name
  rw [get?_foldl_set map.ascending.nodup, NameMap.get?_empty, Option.or_none, NameMap.get?]

theorem Index.reads (index : Index) : Reads Index.decoder index.toJson index := by
  intro gap text rest blank spells
  have entries : Reads (nameMap nameSet) index.entriesJson index.entries := by
    have filled := fills_entries reads_nameSet index.entries.entries ∅
    rw [foldl_set_entries] at filled
    exact reads_nameMap filled
  have fills : Fills Index.shape.member Index.shape.start [("entries", index.entriesJson)]
      { entries := some index.entries } :=
    .cons (takes_slotField rfl rfl entries) (.nil _)
  rw [Index.decoder, reads_record fills rfl gap text rest blank spells]
  rfl

theorem Findings.fills (findings : Findings) :
    Fills Findings.shape.member Findings.shape.start findings.members
      { unusedClasses := some findings.unusedClasses,
        unusedMethods := some findings.unusedMethods } := by
  refine .cons (takes_slotField rfl rfl (reads_strings findings.unusedClasses)) ?_
  exact .cons (takes_slotField rfl rfl (reads_strings findings.unusedMethods)) (.nil _)

/-- Findings are read back from every object whose members fill their draft. -/
theorem Findings.reads_of_fills {findings : Findings} {members : List (String × Value)}
    (fills : Fills Findings.shape.member Findings.shape.start members
      { unusedClasses := some findings.unusedClasses,
        unusedMethods := some findings.unusedMethods }) :
    Reads Findings.decoder (.object members) findings := by
  intro gap text rest blank spells
  rw [Findings.decoder, reads_record fills rfl gap text rest blank spells]
  rfl

theorem Findings.reads (findings : Findings) :
    Reads Findings.decoder findings.toJson findings :=
  Findings.reads_of_fills findings.fills

/-! ### Reports and settings -/

theorem Report.Format.reads (format : Report.Format) :
    Reads Report.Format.decoder format.toJson format :=
  reads_variant (by cases format <;> rfl)

theorem string_ne_null (value : String) : Value.string value ≠ .null := Value.noConfusion

theorem Report.Format.toJson_ne_null (format : Report.Format) : format.toJson ≠ .null :=
  Value.noConfusion

/-- The draft that a report's context is read into. -/
def Report.Context.draft (context : Report.Context) : ContextDraft :=
  { binaryName := some context.binaryName
    binaryDigest := context.binaryDigest.map some
    generatedAt := some context.generatedAt
    toolVersion := some context.toolVersion }

theorem Report.Context.fills (context : Report.Context) :
    Fills Report.Context.shape.member Report.Context.shape.start context.members context.draft := by
  obtain ⟨binaryName, binaryDigest, generatedAt, toolVersion⟩ := context
  have named : Fills Report.Context.shape.member Report.Context.shape.start
      [("binary_name", .string binaryName)] { binaryName := some binaryName } :=
    .cons (takes_slotField rfl rfl (reads_string binaryName)) (.nil _)
  have digested : Fills Report.Context.shape.member { binaryName := some binaryName }
      (member? "binary_sha256" (binaryDigest.map .string))
      { binaryName := some binaryName, binaryDigest := binaryDigest.map some } :=
    fills_member? rfl rfl reads_string string_ne_null (by cases binaryDigest <;> rfl)
  refine (named.append digested).append ?_
  refine .cons (takes_slotField rfl rfl (reads_string generatedAt)) ?_
  exact .cons (takes_slotField rfl rfl (reads_string toolVersion)) (.nil _)

theorem Report.Context.reads_of_fills {context : Report.Context} {members : List (String × Value)}
    (fills : Fills Report.Context.shape.member Report.Context.shape.start members context.draft) :
    Reads Report.Context.decoder (.object members) context := by
  intro gap text rest blank spells
  rw [Report.Context.decoder, reads_record fills rfl gap text rest blank spells]
  obtain ⟨binaryName, binaryDigest, generatedAt, toolVersion⟩ := context
  cases binaryDigest <;> rfl

theorem Report.Context.reads (context : Report.Context) :
    Reads Report.Context.decoder context.toJson context :=
  Report.Context.reads_of_fills context.fills

/-- The draft that settings are read into. -/
def Settings.draft (settings : Settings) : SettingsDraft :=
  { whitelist := some settings.whitelist
    useBuiltInWhitelist := some settings.useBuiltInWhitelist
    dumpToolPath := settings.dumpToolPath.map some
    demangleToolPath := settings.demangleToolPath.map some
    demangle := some settings.demangle
    parallel := some settings.parallel
    reportFormat := settings.reportFormat.map some }

/-- A field that was left out has the value that the default gives it. -/
theorem Settings.finish_draft (settings : Settings) : settings.draft.finish = settings := by
  obtain ⟨whitelist, useBuiltIn, dumpTool, demangleTool, demangle, parallel, format⟩ := settings
  cases dumpTool <;> cases demangleTool <;> cases format <;> rfl

theorem Settings.fills (settings : Settings) :
    Fills Settings.shape.member Settings.shape.start
      ([("whitelist", strings settings.whitelist),
          ("use_default_whitelist", .boolean settings.useBuiltInWhitelist)] ++
        member? "otool_path" (settings.dumpToolPath.map .string) ++
        member? "swift_demangle_path" (settings.demangleToolPath.map .string) ++
        [("demangle", .boolean settings.demangle), ("parallel", .boolean settings.parallel)] ++
        member? "report_format" (settings.reportFormat.map Report.Format.toJson))
      settings.draft := by
  obtain ⟨whitelist, useBuiltIn, dumpTool, demangleTool, demangle, parallel, format⟩ := settings
  have listed : Fills Settings.shape.member Settings.shape.start
      [("whitelist", strings whitelist), ("use_default_whitelist", .boolean useBuiltIn)]
      { whitelist := some whitelist, useBuiltInWhitelist := some useBuiltIn } := by
    refine .cons (takes_slotField rfl rfl (reads_strings whitelist)) ?_
    exact .cons (takes_slotField rfl rfl (reads_boolean useBuiltIn)) (.nil _)
  have dumped : Fills Settings.shape.member
      { whitelist := some whitelist, useBuiltInWhitelist := some useBuiltIn }
      (member? "otool_path" (dumpTool.map .string))
      { whitelist := some whitelist, useBuiltInWhitelist := some useBuiltIn,
        dumpToolPath := dumpTool.map some } :=
    fills_member? rfl rfl (reads_stringAs _) string_ne_null (by cases dumpTool <;> rfl)
  have demangled : Fills Settings.shape.member
      { whitelist := some whitelist, useBuiltInWhitelist := some useBuiltIn,
        dumpToolPath := dumpTool.map some }
      (member? "swift_demangle_path" (demangleTool.map .string))
      { whitelist := some whitelist, useBuiltInWhitelist := some useBuiltIn,
        dumpToolPath := dumpTool.map some, demangleToolPath := demangleTool.map some } :=
    fills_member? rfl rfl (reads_stringAs _) string_ne_null (by cases demangleTool <;> rfl)
  have switched : Fills Settings.shape.member
      { whitelist := some whitelist, useBuiltInWhitelist := some useBuiltIn,
        dumpToolPath := dumpTool.map some, demangleToolPath := demangleTool.map some }
      [("demangle", .boolean demangle), ("parallel", .boolean parallel)]
      { whitelist := some whitelist, useBuiltInWhitelist := some useBuiltIn,
        dumpToolPath := dumpTool.map some, demangleToolPath := demangleTool.map some,
        demangle := some demangle, parallel := some parallel } := by
    refine .cons (takes_slotField rfl rfl (reads_boolean demangle)) ?_
    exact .cons (takes_slotField rfl rfl (reads_boolean parallel)) (.nil _)
  refine (((listed.append dumped).append demangled).append switched).append ?_
  exact fills_member? rfl rfl Report.Format.reads Report.Format.toJson_ne_null
    (by cases format <;> rfl)

theorem Settings.reads (settings : Settings) :
    Reads Settings.decoder settings.toJson settings := by
  intro gap text rest blank spells
  rw [Settings.decoder, reads_record settings.fills rfl gap text rest blank spells]
  simp only [Except.map, settings.finish_draft]

/-! ### What was written -/

/-- Decoding undoes writing. A text that is decoded may be replaced by the written form of its value,
which is decoded to the same. -/
def RoundTrips (decoder : Decoder α) (toJson : α → Value) : Prop :=
  (∀ value, decode decoder (toJson value).compact = .ok value) ∧
    ∀ text value, decode decoder text = .ok value →
      decode decoder (toJson value).compact = decode decoder text

theorem roundTrips_of_reads {decoder : Decoder α} {toJson : α → Value}
    (reads : ∀ value, Reads decoder (toJson value) value) : RoundTrips decoder toJson := by
  refine ⟨fun value => (reads value).decode_compact, ?_⟩
  intro text value decoded
  rw [decoded, (reads value).decode_compact]

/-- Every type of values that is kept as JSON is read back as it was written. -/
theorem kept_values_roundTrip :
    RoundTrips Method.decoder Method.toJson ∧
      RoundTrips ClassRecord.decoder ClassRecord.toJson ∧
      RoundTrips Index.decoder Index.toJson ∧
      RoundTrips Findings.decoder Findings.toJson ∧
      RoundTrips Report.Context.decoder Report.Context.toJson ∧
      RoundTrips Settings.decoder Settings.toJson :=
  ⟨roundTrips_of_reads Method.reads, roundTrips_of_reads ClassRecord.reads,
    roundTrips_of_reads Index.reads, roundTrips_of_reads Findings.reads,
    roundTrips_of_reads Report.Context.reads, roundTrips_of_reads Settings.reads⟩

end DeadSymbols
