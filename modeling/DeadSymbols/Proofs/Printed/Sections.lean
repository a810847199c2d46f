import DeadSymbols.Proofs.Printed.Records
import DeadSymbols.Proofs.SelectorReferences

/-!
Contract: the sections of a written dump, and the names in them.

Cutting a text at its headers gives back the sections that it was written from, so every reader is
handed the lines of its own section. In the class list only the name of a class stands before a
line of methods: the name of a method stands before its types, and that of an ivar before its type.
-/

namespace DeadSymbols.Text

theorem isBlank_unlines (texts : List (List Char)) :
    isBlank (unlines texts) = texts.all isBlank := by
  induction texts with
  | nil => rfl
  | cons text texts inductionHypothesis =>
      rw [unlines_cons, List.all_cons, ← inductionHypothesis]
      simp only [isBlank, List.all_append, List.all_cons]
      rfl

end DeadSymbols.Text

namespace DeadSymbols.Dump.Printed

open DeadSymbols.Text

theorem written_append (lines more : List Line) :
    written (lines ++ more) = written lines ++ written more := by
  rw [written, List.map_append, unlines_append]
  rfl

/-! ### Cutting at headers -/

/-- The header of a section, as the cutter should give it. -/
def Section.header (part : Section) : Header :=
  { text := headerLine part.segment.chars part.kind.name.toList
    segment := part.segment.chars
    name := part.kind.name.toList }

/-- The block of a section. Its body starts with the newline of the header. -/
def Section.block (part : Section) : Block :=
  { header := part.header, body := '\n' :: written part.content }

/-- Lines without header, as they stand in a section. -/
def Headless (lines : List Line) : Prop := ∀ line ∈ lines, line.lead ≠ "Contents of"

theorem cut_headless {lines : List Line} {rest : List Char} (headless : Headless lines) :
    cut true (written lines ++ rest) = (written lines ++ (cut true rest).1, (cut true rest).2) := by
  refine cut_lines (single_texts lines) ?_
  intro text member
  obtain ⟨line, inLines, rfl⟩ := List.mem_map.mp member
  exact noSection_text (headless line inLines)

theorem cut_sections {sections : List Section}
    (headless : ∀ part ∈ sections, Headless part.content) :
    cut true (written (sections.flatMap Section.lines)) = ([], sections.map Section.block) := by
  induction sections with
  | nil => exact cut_nil
  | cons part sections inductionHypothesis =>
      obtain ⟨here, later⟩ := List.forall_mem_cons.mp headless
      have parts : written ((part :: sections).flatMap Section.lines) =
          headerLine part.segment.chars part.kind.name.toList ++
            '\n' :: (written part.content ++ written (sections.flatMap Section.lines)) := by
        rw [List.flatMap_cons, written_append, Section.lines, written, List.map_cons, unlines_cons,
          List.append_assoc]
        rfl
      rw [parts, cut_headerLine part.segment.isName part.kind.isName, cut_headless here,
        inductionHypothesis later, List.append_nil]
      rfl

theorem headless_filler (fillers : List Filler) : Headless (fillers.map Line.filler) := by
  intro line member
  obtain ⟨ignored, _, rfl⟩ := List.mem_map.mp member
  exact (by decide : "" ≠ "Contents of")

theorem SectionKind.name_inj {kind other : SectionKind} (same : kind.name = other.name) :
    kind = other := by
  revert same
  cases kind <;> cases other <;> decide

theorem Section.names_header (part : Section) (kind : SectionKind) :
    part.header.names kind.name = decide (part.kind = kind) := by
  have data : startsWith "__DATA".toList part.segment.chars = true :=
    startsWith_iff.mpr ⟨part.segment.suffix, rfl⟩
  rw [Header.names, Section.header, trim_of_isWord part.segment.isWord,
    trim_of_isWord part.kind.isWord, data, Bool.true_and]
  by_cases same : part.kind = kind
  · rw [same, decide_eq_true rfl, beq_self_eq_true]
  · rw [decide_eq_false same]
    apply beq_false_of_ne
    intro names
    exact same (SectionKind.name_inj (String.toList_inj.mp names))

/-- The first section of a kind gives the body that is found under its name. -/
theorem sectionBody?_sectioned (preamble : List Filler) {sections : List Section}
    (headless : ∀ part ∈ sections, Headless part.content) (kind : SectionKind) :
    sectionBody? (sectioned preamble sections) kind.name =
      (sections.find? (·.kind = kind)).map (·.block.body) := by
  have named : (fun block : Block => block.header.names kind.name) ∘ Section.block =
      fun part => decide (part.kind = kind) :=
    funext fun part => part.names_header kind
  have blocks : (layout (sectioned preamble sections)).blocks = sections.map Section.block := by
    rw [sectioned, written_append]
    change (cut true _).2 = _
    rw [cut_headless (headless_filler preamble), cut_sections headless]
  rw [sectionBody?, blocks, List.find?_map, named, Option.map_map]
  rfl

/-- A text with a section is not blank, since it has a header. -/
theorem isBlank_sectioned (preamble : List Filler) {sections : List Section}
    (notEmpty : sections ≠ []) : isBlank (sectioned preamble sections) = false := by
  obtain ⟨part, more, rfl⟩ := List.exists_cons_of_ne_nil notEmpty
  have starts := startsWith_text (.header part.segment part.kind) "Contents of" (by decide)
  have notBlank : isBlank (Line.header part.segment part.kind).text = false :=
    isBlank_eq_false_of_startsWith (by decide) starts
  rw [sectioned, written, isBlank_unlines, List.all_eq_false]
  refine ⟨(Line.header part.segment part.kind).text, List.mem_map_of_mem ?_, ?_⟩
  · exact List.mem_append_right _ List.mem_cons_self
  · rw [notBlank]
    exact Bool.false_ne_true

theorem lines_body (part : Section) :
    Text.lines part.block.body = [] :: part.content.map Line.text := by
  have whole : part.block.body = unlines ([] :: part.content.map Line.text) := by
    rw [unlines_cons]
    rfl
  rw [whole, lines_unlines]
  exact List.forall_mem_cons.mpr ⟨by decide, single_texts part.content⟩

/-! ### Declared classes -/

section Declared

variable {rest : List (List Char)}

theorem namesDeclared_skip {lines : List Line} (nameless : ∀ line ∈ lines, line.name? = none) :
    namesDeclared (lines.map Line.text ++ rest) = namesDeclared rest := by
  apply namesDeclared_append
  intro text member
  obtain ⟨line, inLines, rfl⟩ := List.mem_map.mp member
  exact (nameToken?_text line).trans (nameless line inLines)

theorem MethodEntry.name?_impLine (owner : Token) (method : MethodEntry) :
    (method.impLine owner).name? = none := by
  unfold MethodEntry.impLine
  cases method.implementation with
  | stripped => rfl
  | symbol sign closable => rfl

/-- The name of a method stands before its types, so it declares nothing. -/
theorem MethodEntry.namesDeclared_lines (owner : Token) (method : MethodEntry) :
    namesDeclared ((method.lines owner).map Line.text ++ rest) = namesDeclared rest := by
  have notBlank : isBlank (Line.types method.typesAddress method.encoding).text = false :=
    isBlank_keyedText (by decide)
  have other := startsWith_text (.types method.typesAddress method.encoding) "baseMethods" (by decide)
  have nameless : ∀ line ∈ [Line.types method.typesAddress method.encoding, method.impLine owner],
      line.name? = none :=
    List.forall_mem_cons.mpr ⟨rfl, List.forall_mem_singleton.mpr (method.name?_impLine owner)⟩
  exact (namesDeclared_before_other notBlank other).trans (namesDeclared_skip nameless)

/-- The name of an ivar stands before its type, so it declares nothing. -/
theorem IvarEntry.namesDeclared_lines (ivar : IvarEntry) :
    namesDeclared (ivar.lines.map Line.text ++ rest) = namesDeclared rest := by
  have notBlank : isBlank (Line.ivarType ivar.typeAddress ivar.encoding).text = false :=
    isBlank_keyedText (by decide)
  have other := startsWith_text (.ivarType ivar.typeAddress ivar.encoding) "baseMethods" (by decide)
  have nameless : ∀ line ∈ Line.ivarType ivar.typeAddress ivar.encoding :: ivar.after.map .filler,
      line.name? = none :=
    List.forall_mem_cons.mpr ⟨rfl, name?_filler⟩
  rw [IvarEntry.lines, List.map_append, List.append_assoc, namesDeclared_skip name?_filler]
  exact (namesDeclared_before_other notBlank other).trans (namesDeclared_skip nameless)

theorem namesDeclared_flatMap {α : Type} {entries : List α} {lines : α → List Line}
    (nothing : ∀ entry {rest : List (List Char)},
      namesDeclared ((lines entry).map Line.text ++ rest) = namesDeclared rest) :
    namesDeclared ((entries.flatMap lines).map Line.text ++ rest) = namesDeclared rest := by
  induction entries with
  | nil => rfl
  | cons entry entries inductionHypothesis =>
      rw [List.flatMap_cons, List.map_append, List.append_assoc, nothing, inductionHypothesis]

namespace ClassEntry

variable (entry : ClassEntry)

theorem namesDeclared_methodLines :
    namesDeclared (entry.methodLines.map Line.text ++ rest) = namesDeclared rest := by
  rw [methodLines, List.map_cons, List.cons_append, namesDeclared_nameless (nameToken?_text _),
    List.map_append, List.append_assoc, namesDeclared_skip name?_filler,
    namesDeclared_flatMap fun method => method.namesDeclared_lines entry.token]

theorem namesDeclared_body :
    namesDeclared (entry.body.map Line.text ++ rest) = entry.token.name :: namesDeclared rest := by
  have named := nameToken?_text (.className entry.nameAddress entry.token)
  have methods := startsWith_text (.baseMethods entry.methodsAddress) "baseMethods" (by decide)
  rw [body, List.map_append, List.append_assoc, namesDeclared_skip name?_filler]
  refine (namesDeclared_before_methods named methods).trans ?_
  exact congrArg _ entry.namesDeclared_methodLines

theorem namesDeclared_tail :
    namesDeclared (entry.tail.map Line.text ++ rest) = namesDeclared rest := by
  rw [tail, List.map_append, List.append_assoc, namesDeclared_skip name?_filler, List.map_append,
    List.append_assoc, namesDeclared_flatMap fun ivar => ivar.namesDeclared_lines,
    namesDeclared_skip name?_filler]

/-- The lines of a class declare its name, and no other. -/
theorem namesDeclared_lines :
    namesDeclared (entry.lines.map Line.text ++ rest) = entry.token.name :: namesDeclared rest := by
  have parts : entry.lines.map Line.text ++ rest =
      (entry.beforeRecord.map Line.filler).map Line.text ++
        (Line.record entry.flavor entry.recordAddress).text :: (entry.body.map Line.text ++
          (Line.baseProtocols entry.protocolsAddress).text :: (entry.tail.map Line.text ++ rest)) := by
    simp only [lines, List.map_append, List.map_cons, List.append_assoc, List.cons_append]
  rw [parts, namesDeclared_skip name?_filler, namesDeclared_nameless (nameToken?_text _),
    namesDeclared_body, namesDeclared_nameless (nameToken?_text _), namesDeclared_tail]

end ClassEntry

theorem namesDeclared_classes (classes : List ClassEntry) :
    namesDeclared ((classes.flatMap ClassEntry.lines).map Line.text) =
      classes.map (·.token.name) := by
  induction classes with
  | nil => rfl
  | cons entry classes inductionHypothesis =>
      rw [List.flatMap_cons, List.map_append, entry.namesDeclared_lines, inductionHypothesis,
        List.map_cons]

end Declared

/-! ### Referenced selectors -/

theorem Token.showable (token : Token) : Showable token.name := by
  refine ⟨?_, ?_, ?_⟩
  · intro empty
    exact token.isWord.1 (by rw [← token.toList_name, empty]; rfl)
  · rw [token.toList_name]
    exact token.single
  · rw [token.toList_name]
    exact trim_of_isWord token.isWord

theorem markedTexts_written (references : List SelectorReference) :
    markedTexts (written (references.map fun reference =>
        .selectorReference reference.place reference.selector)) =
      references.map (·.selector.chars) := by
  rw [written, List.map_map]
  exact markedTexts_referenceLines fun reference _ => reference.selector.single

end DeadSymbols.Dump.Printed
