import DeadSymbols.Name.Demangler
import DeadSymbols.Proofs.Findings
import DeadSymbols.Proofs.Printed.Sections
import DeadSymbols.Proofs.Resolution

/-!
Contract: reading the texts of a description recovers what it describes.

Every reader gives the list of the description that it is meant for: the records, the declared
classes, the referenced classes and the referenced selectors, wherever the latter stand. The
analysis of the texts is therefore the one of the lists.
-/

namespace DeadSymbols.Dump.Printed

open DeadSymbols.Name
open DeadSymbols.Text

/-! ### The sections of a description -/

theorem lead_ne_of_role {line : Line} (notClosing : line.role ≠ .terminator) :
    line.lead ≠ "Contents of" := by
  cases line with
  | header segment kind => exact absurd rfl notClosing
  | filler | record | className | baseMethods | methodName | types | strippedImp | symbolImp
  | baseProtocols | ivarName | ivarType | classReference | selectorReference =>
      exact of_decide_eq_true rfl

theorem headless_of_content {lines : List Line} (content : ∀ line ∈ lines, line.role = .content) :
    Headless lines := by
  intro line member
  refine lead_ne_of_role ?_
  rw [content line member]
  exact nofun

theorem ClassEntry.headless_lines (entry : ClassEntry) : Headless entry.lines := by
  have record : (Line.record entry.flavor entry.recordAddress).lead ≠ "Contents of" :=
    lead_ne_of_role nofun
  have protocols : (Line.baseProtocols entry.protocolsAddress).lead ≠ "Contents of" :=
    of_decide_eq_true rfl
  exact List.forall_mem_append.mpr ⟨headless_filler _, List.forall_mem_cons.mpr ⟨record,
    List.forall_mem_append.mpr ⟨headless_of_content entry.role_body, List.forall_mem_cons.mpr
      ⟨protocols, headless_of_content entry.role_tail⟩⟩⟩⟩

namespace Description

variable (description : Description) (placement : Placement)

theorem role_classReferences :
    ∀ line ∈ description.classReferencesSection.content, line.role = .content := by
  intro line member
  obtain ⟨reference, _, rfl⟩ := List.mem_map.mp member
  rfl

theorem role_selectorReferences :
    ∀ line ∈ description.selectorReferencesSection.content, line.role = .content := by
  intro line member
  obtain ⟨reference, _, rfl⟩ := List.mem_map.mp member
  rfl

theorem headless_selectorReferences :
    ∀ part ∈ [description.selectorReferencesSection], Headless part.content :=
  List.forall_mem_singleton.mpr (headless_of_content description.role_selectorReferences)

theorem headless_sections :
    ∀ part ∈ description.sections placement, Headless part.content := by
  have classes : Headless description.classListSection.content := by
    intro line member
    obtain ⟨entry, _, inEntry⟩ := List.mem_flatMap.mp member
    exact entry.headless_lines line inEntry
  have references := headless_of_content description.role_classReferences
  cases placement with
  | inDump =>
      exact List.forall_mem_cons.mpr ⟨classes, List.forall_mem_cons.mpr ⟨references,
        description.headless_selectorReferences⟩⟩
  | separate =>
      exact List.forall_mem_cons.mpr ⟨classes, List.forall_mem_singleton.mpr references⟩

/-! ### What the readers recover -/

theorem sectionBody?_dump (kind : SectionKind) :
    sectionBody? (description.dump placement) kind.name =
      ((description.sections placement).find? (·.kind = kind)).map (·.block.body) :=
  sectionBody?_sectioned _ (description.headless_sections placement) kind

theorem declaredClasses_dump :
    declaredClasses (description.dump placement) = NameSet.ofList description.declaredNames := by
  have found : sectionBody? (description.dump placement) SectionKind.classList.name =
      some description.classListSection.block.body := by
    rw [sectionBody?_dump]
    cases placement with
    | inDump => rfl
    | separate => rfl
  have names : namesDeclared (Text.lines description.classListSection.block.body) =
      description.declaredNames := by
    rw [lines_body, namesDeclared_nameless rfl]
    exact namesDeclared_classes description.classes
  rw [← names]
  exact congrArg (fun body? => (body?.map declaredIn).getD ∅) found

theorem referencedClasses_dump :
    referencedClasses (description.dump placement) =
      NameSet.ofList description.referencedNames := by
  have found : sectionBody? (description.dump placement) SectionKind.classReferences.name =
      some description.classReferencesSection.block.body := by
    rw [sectionBody?_dump]
    cases placement with
    | inDump => rfl
    | separate => rfl
  have names :
      (Text.lines description.classReferencesSection.block.body).filterMap classReference? =
        description.referencedNames := by
    rw [lines_body, List.filterMap_cons_none rfl, List.filterMap_map, classReferencesSection,
      List.filterMap_map]
    refine (List.filterMap_congr fun reference _ => ?_).trans (congrFun List.filterMap_eq_map' _)
    exact classReference?_text reference.place reference.address reference.token
  rw [← names]
  exact congrArg (fun body? => (body?.map referencedIn).getD ∅) found

theorem selectorsIn_body :
    selectorsIn description.selectorReferencesSection.block.body =
      NameSet.ofList description.referencedSelectorNames := by
  have newline : markedTexts description.selectorReferencesSection.block.body =
      markedTexts (written description.selectorReferencesSection.content) :=
    markedTexts_cons rfl
  apply selectorsIn_of_markedTexts
  · rw [newline, referencedSelectorNames, List.map_map]
    simp only [Function.comp_def, Token.toList_name]
    exact markedTexts_written description.selectorReferences
  · intro name member
    obtain ⟨reference, _, rfl⟩ := List.mem_map.mp member
    exact reference.selector.showable

theorem selectorReferences_body :
    sectionBody? (selectorSource (description.dump placement) (description.selectorText placement))
        SectionKind.selectorReferences.name =
      some description.selectorReferencesSection.block.body := by
  cases placement with
  | inDump blankText blank =>
      rw [selectorSource, selectorText, if_pos blank, sectionBody?_dump]
      rfl
  | separate preamble =>
      have notBlank := isBlank_sectioned preamble
        (List.cons_ne_nil description.selectorReferencesSection [])
      rw [selectorSource, selectorText, notBlank, if_neg Bool.false_ne_true,
        sectionBody?_sectioned _ description.headless_selectorReferences]
      rfl

theorem referencedSelectors_source :
    referencedSelectors
        (selectorSource (description.dump placement) (description.selectorText placement)) =
      NameSet.ofList description.referencedSelectorNames := by
  have body := description.selectorReferences_body placement
  change sectionBody? _ Dump.selectorReferences = _ at body
  rw [referencedSelectors, body, Option.getD_some, selectorsIn_body]

theorem recordsFrom_classes (classes : List ClassEntry) {rest : List (List Char)} :
    recordsFrom none ((classes.flatMap ClassEntry.lines).map Line.piece ++ rest) =
      classes.map ClassEntry.record ++ recordsFrom none rest := by
  induction classes with
  | nil => rfl
  | cons entry classes inductionHypothesis =>
      rw [List.flatMap_cons, List.map_append, List.append_assoc, entry.recordsFrom_lines,
        inductionHypothesis, List.map_cons, List.cons_append]

/-- After the class list no line opens a record. -/
theorem exists_sections : ∃ later,
    description.sections placement = description.classListSection :: later ∧
      ∀ line ∈ later.flatMap Section.lines, ∀ flavor, line.role ≠ .header flavor := by
  have references : ∀ line ∈ description.classReferencesSection.lines,
      ∀ flavor, line.role ≠ .header flavor :=
    List.forall_mem_cons.mpr ⟨nofun, idle_of_content description.role_classReferences⟩
  have selectors : ∀ line ∈ description.selectorReferencesSection.lines,
      ∀ flavor, line.role ≠ .header flavor :=
    List.forall_mem_cons.mpr ⟨nofun, idle_of_content description.role_selectorReferences⟩
  cases placement with
  | inDump =>
      refine ⟨[description.classReferencesSection, description.selectorReferencesSection], rfl, ?_⟩
      rw [List.flatMap_cons, List.flatMap_singleton]
      exact List.forall_mem_append.mpr ⟨references, selectors⟩
  | separate =>
      refine ⟨[description.classReferencesSection], rfl, ?_⟩
      rw [List.flatMap_singleton]
      exact references

/-- The records of the dump are those of the entries, one for each and in order. -/
theorem rawRecords_dump :
    rawRecords (description.dump placement) = description.classes.map ClassEntry.record := by
  obtain ⟨later, sections, idle⟩ := description.exists_sections placement
  have header : ∀ line ∈ [Line.header description.classListSegment .classList],
      ∀ flavor, line.role ≠ .header flavor :=
    List.forall_mem_singleton.mpr nofun
  have parts : (description.preamble.map Line.filler ++
      (description.sections placement).flatMap Section.lines).map Line.piece =
        (description.preamble.map Line.filler).map Line.piece ++
          ([Line.header description.classListSegment .classList].map Line.piece ++
            ((description.classes.flatMap ClassEntry.lines).map Line.piece ++
              ((later.flatMap Section.lines).map Line.piece ++ []))) := by
    rw [sections, List.flatMap_cons, Section.lines, List.map_append, List.map_append, List.map_cons,
      List.append_nil]
    rfl
  rw [rawRecords, dump, sectioned, pieces_written, parts,
    recordsFrom_idle (idle_of_content role_filler), recordsFrom_idle header, recordsFrom_classes,
    recordsFrom_idle idle]
  exact List.append_nil _

/-! ### The analysis -/

theorem unusedMethods_dump (rename : String → String) (whitelist : NameSet) :
    (analyze rename whitelist (description.dump placement)
        (description.selectorText placement)).unusedMethods =
      (description.findings rename whitelist).unusedMethods := by
  rw [← toList_ofList_of_ascending analyze_unusedMethods_ascending]
  refine congrArg NameSet.toList (NameSet.ext fun signature => ?_)
  rw [NameSet.mem_ofList, NameSet.mem_ofList, mem_analyze_unusedMethods_iff_parsed,
    rawRecords_dump, referencedSelectors_source, List.mem_flatMap]
  constructor
  · intro parsed
    obtain ⟨record, member, parsed, parsedFrom, method, inMethods, same, notWhitelisted,
      notReferenced⟩ := parsed
    obtain ⟨entry, inClasses, rfl⟩ := List.mem_map.mp member
    rw [entry.parse?_record, Option.mem_some_iff] at parsedFrom
    subst parsedFrom
    obtain ⟨selector, inSelectors, rfl⟩ := List.mem_map.mp inMethods
    refine ⟨entry, inClasses, List.mem_map.mpr ⟨selector, List.mem_filter.mpr ⟨inSelectors, ?_⟩,
      same⟩⟩
    rw [NameSet.mem_ofList] at notReferenced
    exact decide_eq_true ⟨notWhitelisted, notReferenced⟩
  · intro described
    obtain ⟨entry, inClasses, member⟩ := described
    obtain ⟨selector, kept, same⟩ := List.mem_map.mp member
    obtain ⟨inSelectors, allowed⟩ := List.mem_filter.mp kept
    obtain ⟨notWhitelisted, notReferenced⟩ := of_decide_eq_true allowed
    refine ⟨entry.record, List.mem_map_of_mem inClasses, entry.described rename, ?_,
      Method.of (rename entry.token.name) selector, List.mem_map_of_mem inSelectors, same,
      notWhitelisted, ?_⟩
    · exact entry.parse?_record rename
    · rw [NameSet.mem_ofList]
      exact notReferenced

theorem unusedClasses_dump (rename : String → String) (whitelist : NameSet) :
    (analyze rename whitelist (description.dump placement)
        (description.selectorText placement)).unusedClasses =
      (description.findings rename whitelist).unusedClasses := by
  rw [← toList_ofList_of_ascending analyze_unusedClasses_ascending]
  refine congrArg NameSet.toList (NameSet.ext fun name => ?_)
  rw [NameSet.mem_ofList, mem_analyze_unusedClasses, declaredClasses_dump, referencedClasses_dump,
    NameSet.mem_diff, NameSet.mem_ofList, NameSet.mem_ofList, List.mem_map, List.mem_map]
  simp only [NameSet.mem_ofList, not_exists, not_and, ne_eq]

end Description

end DeadSymbols.Dump.Printed

namespace DeadSymbols

open DeadSymbols.Dump
open DeadSymbols.Dump.Printed
open DeadSymbols.Name

variable {σ : Type}

/-- The texts of a description are read as what it describes: the records give the classes with
their methods, the two sections of classes and the selector references give the listed names, and
the analysis reports what is unused according to the lists. -/
theorem analyzeWith_printed {demangler : Demangler σ} {answer : String → Option String}
    (answers : AnswersBy demangler answer) (whitelist : NameSet) (description : Description)
    (placement : Placement) (state : σ) :
    let dump := description.dump placement
    let selectorText := description.selectorText placement
    (rawRecords dump).map (·.flavor) = description.classes.map (·.flavor) ∧
      (rawRecords dump).map (fun record => (record.parseWith? demangler state).1) =
        description.classes.map (fun entry => some (entry.described (naming answer))) ∧
      declaredClasses dump = NameSet.ofList description.declaredNames ∧
      referencedClasses dump = NameSet.ofList description.referencedNames ∧
      referencedSelectors (selectorSource dump selectorText) =
        NameSet.ofList description.referencedSelectorNames ∧
      (analyzeWith demangler whitelist dump selectorText state).1 =
        description.findings (naming answer) whitelist := by
  dsimp only
  refine ⟨?_, ?_, description.declaredClasses_dump placement,
    description.referencedClasses_dump placement, description.referencedSelectors_source placement,
    ?_⟩
  · rw [description.rawRecords_dump placement, List.map_map]
    rfl
  · rw [description.rawRecords_dump placement, List.map_map]
    refine List.map_congr_left fun entry _ => ?_
    exact (answers.parseWith? entry.record state).trans (entry.parse?_record (naming answer))
  · rw [answers.analyzeWith]
    exact congrArg₂ Findings.mk (description.unusedClasses_dump placement _ whitelist)
      (description.unusedMethods_dump placement _ whitelist)

/-- Two classes with a referenced and a whitelisted selector, where an ivar is named like a method,
and with the selector references in a text of their own. -/
theorem analyzeWith_printed_widget :
    let address : Address := { digits := "1f".toList, isHex := by decide }
    let encoding : LineText := { chars := "v16@0:8".toList, single := by decide }
    let data : Segment := { suffix := "_CONST".toList, plain := by decide }
    let draw : Token := { chars := "draw".toList, isWord := by decide }
    let run : Token := { chars := "run:".toList, isWord := by decide }
    let stop : Token := { chars := "stop".toList, isWord := by decide }
    let method (selector : Token) (implementation : Implementation selector) : MethodEntry :=
      { selector, implementation, encoding, nameAddress := address, typesAddress := address
        impAddress := address }
    let widget : ClassEntry :=
      { flavor := .native
        token := { chars := "Widget".toList, isWord := by decide }
        methods := [method draw (.symbol .ofInstance (by decide)), method run .stripped]
        ivars :=
          [{ name := stop, encoding, nameAddress := address, typeAddress := address
             before := [], after := [] }]
        recordAddress := address, nameAddress := address, methodsAddress := address
        protocolsAddress := address
        beforeRecord := [], beforeName := []
        beforeMethods := [{ chars := "entsize 24".toList, single := by decide, inert := by decide }]
        beforeIvars := [], afterIvars := [] }
    let runner : ClassEntry :=
      { widget with
        flavor := .bridged
        token := { chars := "Runner".toList, isWord := by decide }
        methods := [method stop .stripped, method run .stripped], ivars := [] }
    let description : Description :=
      { preamble := [], classes := [widget, runner]
        classReferences := [{ place := address, address, token := runner.token }]
        selectorReferences := [{ place := address, selector := run }]
        classListSegment := data, classReferencesSegment := data
        selectorReferencesSegment := data }
    let names : NameMap String := NameMap.empty.set "Widget" "My Widget"
    let placement := Placement.separate []
    let report := (analyzeWith (table names) (NameSet.ofList ["stop"])
      (description.dump placement) (description.selectorText placement) ()).1
    AnswersBy (table names : Demangler Unit) names.get? ∧
      report = { unusedClasses := ["My Widget"], unusedMethods := ["[My Widget draw]"] } := by
  intro address encoding data draw run stop method widget runner description names placement report
  have answers : AnswersBy (table names : Demangler Unit) names.get? := fun _ _ => rfl
  obtain ⟨_, _, _, _, _, reported⟩ :=
    analyzeWith_printed answers (NameSet.ofList ["stop"]) description placement ()
  exact ⟨answers, reported.trans (by decide)⟩

end DeadSymbols
