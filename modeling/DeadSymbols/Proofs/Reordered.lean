import DeadSymbols.Proofs.Findings
import DeadSymbols.Proofs.IndexOrder
import DeadSymbols.Proofs.Joined

/-!
Contract: the order of the sections of a dump does not matter.

A dump is a text without headers, and after it sections in some order. Each scanner goes through
such a dump section by section: no header is made or lost where two sections meet, the record that
a section leaves open is closed by the header of the next one, and a mark does not run over a line
end. What the scanners find is thus the same list in another order, and the analysis depends on
these lists as sets only, as long as no two sections compete for the same part in it.
-/

namespace DeadSymbols

open DeadSymbols.Dump
open DeadSymbols.Name
open DeadSymbols.Text

/-- A text that is one section: the only header in it starts it, and it ends in a newline. -/
structure SectionText where
  text : List Char
  block : Block
  cuts : layout text = { preamble := [], blocks := [block] }
  closed : Closed text

/-- Sections, one after another. -/
def joined (parts : List SectionText) : List Char := parts.flatMap SectionText.text

namespace SectionText

theorem cut_text (part : SectionText) : cut true part.text = ([], [part.block]) :=
  Prod.ext (congrArg Layout.preamble part.cuts) (congrArg Layout.blocks part.cuts)

theorem exists_header (part : SectionText) : ∃ header rest, header? part.text = some (header, rest) := by
  obtain ⟨c, tail, whole⟩ := List.exists_cons_of_ne_nil part.closed.ne_nil
  cases found : header? part.text with
  | some result => exact ⟨result.1, result.2, rfl⟩
  | none =>
      have cut := part.cut_text
      rw [whole] at cut found
      have noHeader : headerAt? true (c :: tail) = none := found
      rw [cut_cons noHeader] at cut
      exact absurd (Prod.mk.inj cut).1 (List.cons_ne_nil c _)

section Written

variable {segment name : List Char} {texts : List (List Char)}
  (named : Run isNameChar segment ∧ Run isNameChar name)
  (plain : ∀ line ∈ texts, SingleLine line ∧ NoSection line)

include named plain in
theorem layout_written :
    layout (headerLine segment name ++ '\n' :: unlines texts) =
      { preamble := []
        blocks := [{ header := { text := headerLine segment name, segment, name }
                     body := '\n' :: unlines texts }] } := by
  have body : cut true (unlines texts) = (unlines texts, []) := by
    have lines := @cut_lines [] texts (fun line member => (plain line member).1)
      (fun line member => (plain line member).2)
    rwa [List.append_nil, cut_nil, List.append_nil] at lines
  rw [layout, cut_headerLine named.1 named.2, body]

theorem closed_written : Closed (headerLine segment name ++ '\n' :: unlines texts) := by
  unfold Closed
  rw [List.getLast?_append_of_ne_nil _ (List.cons_ne_nil _ _)]
  induction texts with
  | nil => rfl
  | cons line texts inductionHypothesis =>
      rw [unlines_cons, ← List.cons_append, List.getLast?_append_of_ne_nil _ (List.cons_ne_nil _ _)]
      exact inductionHypothesis

/-- A written header with lines that are no headers. -/
def ofLines (segment name : List Char) (texts : List (List Char))
    (named : Run isNameChar segment ∧ Run isNameChar name)
    (plain : ∀ line ∈ texts, SingleLine line ∧ NoSection line) : SectionText :=
  ⟨_, _, layout_written named plain, closed_written⟩

end Written

end SectionText

theorem barrier_joined (parts : List SectionText) : Barrier (joined parts) := by
  cases parts with
  | nil => exact fun c member => absurd member (Option.not_mem_none c)
  | cons part rest =>
      obtain ⟨header, after, found⟩ := part.exists_header
      exact barrier_of_header found

theorem closesRecord_joined (parts : List SectionText) : ClosesRecord (joined parts) := by
  cases parts with
  | nil => exact fun piece member => absurd member (Option.not_mem_none piece)
  | cons part rest =>
      obtain ⟨header, after, found⟩ := part.exists_header
      exact closesRecord_of_header found

theorem cut_joined (parts : List SectionText) :
    cut true (joined parts) = ([], parts.map SectionText.block) := by
  induction parts with
  | nil => exact cut_nil
  | cons part rest inductionHypothesis =>
      have opens : (cut true (joined rest)).1 = [] := by rw [inductionHypothesis]
      have first : joined (part :: rest) = part.text ++ joined rest := List.flatMap_cons
      rw [first, cut_join part.closed (barrier_joined rest) opens, part.cut_text,
        inductionHypothesis]
      rfl

/-! ### Scanning section by section -/

section Opened

variable {preamble : List Char} (ended : preamble = [] ∨ Closed preamble)

include ended

/-- What holds of a scan where one closed text meets sections holds of a whole dump. -/
theorem scan_joined {α : Type} {scan : List Char → List α} (scanNil : scan [] = [])
    (scanJoin : ∀ text parts, Closed text → scan (text ++ joined parts) =
      scan text ++ scan (joined parts)) (parts : List SectionText) :
    scan (preamble ++ joined parts) =
      scan preamble ++ parts.flatMap fun part => scan part.text := by
  have sections : scan (joined parts) = parts.flatMap fun part => scan part.text := by
    induction parts with
    | nil => exact scanNil
    | cons part rest inductionHypothesis =>
        have first : joined (part :: rest) = part.text ++ joined rest := List.flatMap_cons
        rw [first, scanJoin _ _ part.closed, inductionHypothesis, List.flatMap_cons]
  rcases ended with empty | closed
  · rw [empty, List.nil_append, scanNil, List.nil_append, sections]
  · rw [scanJoin _ _ closed, sections]

theorem rawRecords_joined (parts : List SectionText) :
    rawRecords (preamble ++ joined parts) =
      rawRecords preamble ++ parts.flatMap fun part => rawRecords part.text := by
  apply scan_joined ended rfl
  intro text parts closed
  exact rawRecords_join closed (closesRecord_joined parts)

theorem markedTexts_joined (parts : List SectionText) :
    markedTexts (preamble ++ joined parts) =
      markedTexts preamble ++ parts.flatMap fun part => markedTexts part.text := by
  apply scan_joined ended markedTexts_nil
  intro text parts closed
  exact markedTexts_join closed

theorem blocks_joined (parts : List SectionText) :
    (layout (preamble ++ joined parts)).blocks =
      (layout preamble).blocks ++ parts.map SectionText.block := by
  show (cut true (preamble ++ joined parts)).2 = (cut true preamble).2 ++ _
  rcases ended with empty | closed
  · rw [empty, List.nil_append, cut_joined, cut_nil, List.nil_append]
  · have opens : (cut true (joined parts)).1 = [] := by rw [cut_joined]
    rw [cut_join closed (barrier_joined parts) opens, cut_joined]

theorem sectionBody?_joined (headless : (layout preamble).blocks = []) (parts : List SectionText)
    (name : String) :
    sectionBody? (preamble ++ joined parts) name =
      (parts.find? (·.block.header.names name)).map (·.block.body) := by
  rw [sectionBody?, blocks_joined ended, headless, List.nil_append, List.find?_map, Option.map_map]
  rfl

end Opened

/-! ### Sections in another order -/

variable {parts reordered : List SectionText}

/-- The one element that a test accepts, if there is one, is found in every order. -/
theorem find?_perm {α : Type} {test : α → Bool} {items others : List α} (permuted : others.Perm items)
    (single : items.countP test ≤ 1) : others.find? test = items.find? test := by
  have accepted := permuted.filter test
  rw [List.countP_eq_length_filter] at single
  rw [← List.head?_filter, ← List.head?_filter]
  cases found : items.filter test with
  | nil => rw [found, List.perm_nil] at accepted; rw [accepted]
  | cons item rest =>
      rw [found, List.length_cons] at single
      have alone : rest = [] := List.length_eq_zero_iff.mp (by omega)
      rw [found, alone, List.perm_singleton] at accepted
      rw [accepted, alone]

theorem selectorsIn_perm {text other : List Char}
    (permuted : (markedTexts other).Perm (markedTexts text)) : selectorsIn other = selectorsIn text := by
  apply NameSet.ext
  intro name
  rw [selectorsIn, selectorsIn, NameSet.mem_ofList, NameSet.mem_ofList]
  exact (((permuted.map trim).filter _).map String.ofList).mem_iff

section Permuted

variable {preamble : List Char} (ended : preamble = [] ∨ Closed preamble)
  (headless : (layout preamble).blocks = []) (permuted : reordered.Perm parts)

include ended permuted

theorem rawRecords_perm :
    (rawRecords (preamble ++ joined reordered)).Perm (rawRecords (preamble ++ joined parts)) := by
  rw [rawRecords_joined ended, rawRecords_joined ended]
  exact (permuted.flatMap_right _).append_left _

theorem markedTexts_perm :
    (markedTexts (preamble ++ joined reordered)).Perm (markedTexts (preamble ++ joined parts)) := by
  rw [markedTexts_joined ended, markedTexts_joined ended]
  exact (permuted.flatMap_right _).append_left _

include headless

theorem sectionBody?_perm {name : String}
    (single : parts.countP (·.block.header.names name) ≤ 1) :
    sectionBody? (preamble ++ joined reordered) name = sectionBody? (preamble ++ joined parts) name := by
  rw [sectionBody?_joined ended headless, sectionBody?_joined ended headless,
    find?_perm permuted single]

/-- The selectors are those of the one section of selector references, or all marked texts. -/
theorem referencedSelectors_perm
    (single : parts.countP (·.block.header.names selectorReferences) ≤ 1) :
    referencedSelectors (preamble ++ joined reordered) =
      referencedSelectors (preamble ++ joined parts) := by
  rw [referencedSelectors, referencedSelectors, sectionBody?_perm ended headless permuted single]
  cases sectionBody? (preamble ++ joined parts) selectorReferences with
  | some body => rfl
  | none => exact selectorsIn_perm (markedTexts_perm ended permuted)

end Permuted

/-- The report does not depend on the order of the sections. A dump is a text without headers,
empty or ended by a newline, followed by sections with at most one for each part in the analysis;
the texts are the same for every permutation of the sections. -/
theorem analyzeWith_sections_reordered {σ : Type} {demangler : Demangler σ}
    {answer : String → Option String} (answers : AnswersBy demangler answer) (whitelist : NameSet)
    {preamble : List Char} (headless : (layout preamble).blocks = [])
    (ended : preamble = [] ∨ preamble.getLast? = some '\n') (permuted : reordered.Perm parts)
    (single : ∀ name ∈ [classList, classReferences, selectorReferences],
      parts.countP (·.block.header.names name) ≤ 1)
    (selectorText : List Char) (state otherState : σ) :
    (analyzeWith demangler whitelist (preamble ++ joined reordered) selectorText otherState).1 =
      (analyzeWith demangler whitelist (preamble ++ joined parts) selectorText state).1 := by
  simp only [List.forall_mem_cons, List.not_mem_nil, false_implies, implies_true, and_true] at single
  obtain ⟨oneClassList, oneClassReferences, oneSelectorReferences⟩ := single
  have declared : declaredClasses (preamble ++ joined reordered) =
      declaredClasses (preamble ++ joined parts) := by
    rw [declaredClasses, declaredClasses, sectionBody?_perm ended headless permuted oneClassList]
  have referenced : referencedClasses (preamble ++ joined reordered) =
      referencedClasses (preamble ++ joined parts) := by
    rw [referencedClasses, referencedClasses,
      sectionBody?_perm ended headless permuted oneClassReferences]
  have selectors : referencedSelectors (selectorSource (preamble ++ joined reordered) selectorText) =
      referencedSelectors (selectorSource (preamble ++ joined parts) selectorText) := by
    unfold selectorSource
    split
    · exact referencedSelectors_perm ended headless permuted oneSelectorReferences
    · rfl
  have index : indexRecords (naming answer) (rawRecords (preamble ++ joined reordered)) =
      indexRecords (naming answer) (rawRecords (preamble ++ joined parts)) :=
    indexRecords_perm (rawRecords_perm ended permuted)
  rw [answers.analyzeWith, answers.analyzeWith, analyze_eq_comparison, analyze_eq_comparison]
  unfold Metadata.comparison Metadata.ofTexts
  rw [index_extract, index_extract, index]
  simp only [Metadata.extract, declared, referenced, selectors]

/-- A class list that ends inside a record, and class references, in both orders behind a line of
text. -/
theorem analyzeWith_sections_reordered_open :
    let classes := SectionText.ofLines "__DATA".toList "__objc_classlist".toList
      ["data 0x1 (struct class_ro_t *)".toList, "name 0x2 K".toList, "baseMethods 0x3".toList,
        "name 0x4 run".toList, "imp 0x5".toList] (by decide) (by decide)
    let references := SectionText.ofLines "__DATA_CONST".toList "__objc_classrefs".toList
      ["00 0x6 _OBJC_CLASS_$_K".toList] (by decide) (by decide)
    (analyzeWith identity ∅ ("image:\n".toList ++ joined [references, classes]) [] ()).1 =
      (analyzeWith identity ∅ ("image:\n".toList ++ joined [classes, references]) [] ()).1 := by
  intro classes references
  have headless : (layout "image:\n".toList).blocks = [] := by decide +kernel
  exact analyzeWith_sections_reordered identity_answersBy ∅ headless (by decide)
    (List.Perm.swap classes references []) (by decide +kernel) [] () ()

end DeadSymbols
