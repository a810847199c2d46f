import DeadSymbols.Proofs.Layout
import DeadSymbols.Proofs.Printed.Line

/-!
Contract: which selectors a text references, line by line.

The scan for selectors jumps from mark to mark and takes the rest of the line each time. Cut at every
carriage return and at every newline, the text gives the same: each piece is searched for its first
mark alone, what follows the mark there is trimmed, and empty names are left out. Further marks
belong to the selector in front of them, and so do blanks inside of it. A list of selectors that is
written one to a line can therefore be read back, whatever the selectors hold besides line ends.

Owns: what trimming leaves, the first mark of a text, the searched region, the written references.
-/

namespace DeadSymbols

namespace Text

variable {p : Char → Bool} {text core back : List Char}

/-! ### Trimming -/

/-- Trimming takes the text to `core`: white space stands around it, and neither of its ends is white
space. -/
def TrimsTo (text core : List Char) : Prop :=
  ∃ front back, text = front ++ (core ++ back) ∧ Spaces front ∧ Spaces back ∧
    Stops isSpace core ∧ Stops isSpace core.reverse

theorem reverse_dropTrailing (text : List Char) :
    (dropTrailing p text).reverse = text.reverse.dropWhile p := by
  induction text with
  | nil => rfl
  | cons c rest inductionHypothesis =>
      rw [List.reverse_cons, List.dropWhile_append, ← inductionHypothesis, dropTrailing]
      cases dropTrailing p rest with
      | nil => by_cases inClass : p c <;> simp [inClass]
      | cons d more => simp

theorem dropTrailing_append (inClass : ∀ c ∈ back, p c = true) (stops : Stops p core.reverse) :
    dropTrailing p (core ++ back) = core := by
  apply List.reverse_injective
  rw [reverse_dropTrailing, List.reverse_append]
  exact dropWhile_append_stops (by simpa using inClass) stops

/-- Trailing characters can be put back. -/
theorem exists_trailing (text : List Char) :
    ∃ back, text = dropTrailing p text ++ back ∧ ∀ c ∈ back, p c = true := by
  refine ⟨(text.reverse.takeWhile p).reverse, ?_, ?_⟩
  · apply List.reverse_injective
    rw [List.reverse_append, List.reverse_reverse, reverse_dropTrailing,
      List.takeWhile_append_dropWhile]
  · intro c member
    exact List.mem_takeWhile_imp (List.mem_reverse.mp member)

theorem Stops.of_append (stops : Stops p (core ++ back)) : Stops p core := by
  cases core with
  | nil => exact stops_nil
  | cons c more => exact stops_cons.mpr (stops_cons.mp stops)

theorem trimsTo_trim (text : List Char) : TrimsTo text (trim text) := by
  obtain ⟨front, whole, spaces⟩ := exists_indent text
  obtain ⟨back, rest, trailing⟩ := exists_trailing (p := isSpace) (trimStart text)
  refine ⟨front, back, ?_, spaces, trailing, ?_, ?_⟩
  · rw [trim, trimEnd, ← rest, ← whole]
  · have leads : Stops isSpace (trimStart text) := stops_dropWhile
    rw [rest] at leads
    exact leads.of_append
  · rw [trim, trimEnd, reverse_dropTrailing]
    exact stops_dropWhile

theorem trim_eq_iff : trim text = core ↔ TrimsTo text core := by
  constructor
  · rintro rfl
    exact trimsTo_trim text
  · rintro ⟨front, back, rfl, spaces, trailing, leads, ends⟩
    cases core with
    | nil =>
        have all : ∀ c ∈ front ++ ([] ++ back), isSpace c = true :=
          List.forall_mem_append.mpr ⟨spaces, trailing⟩
        rw [trim, trimStart, List.dropWhile_eq_nil_iff.mpr all]
        rfl
    | cons c more =>
        have stops : Stops isSpace (c :: more ++ back) := stops_cons.mpr (stops_cons.mp leads)
        rw [trim, trimStart_append spaces stops]
        exact dropTrailing_append trailing ends

theorem trim_of_isWord (isWord : Run isWordChar text) : trim text = text := by
  apply trim_eq_iff.mpr
  have spaceless : ∀ c ∈ text, isSpace c = false :=
    fun c member => isWordChar_iff.mp (isWord.2 c member)
  refine ⟨[], [], by simp, List.forall_mem_nil _, List.forall_mem_nil _, ?_, ?_⟩
  · intro c member
    exact spaceless c (List.mem_of_mem_head? member)
  · intro c member
    exact spaceless c (List.mem_reverse.mp (List.mem_of_mem_head? member))

/-- A text that stops a class does not complete a word of that class. -/
theorem after?_append_stops {word rest : List Char} (inClass : ∀ c ∈ word, p c = true)
    (stops : Stops p rest) : after? word (text ++ rest) = (after? word text).map (· ++ rest) := by
  induction word generalizing text with
  | nil => rfl
  | cons c word inductionHypothesis =>
      obtain ⟨here, later⟩ := List.forall_mem_cons.mp inClass
      cases text with
      | nil =>
          cases rest with
          | nil => rfl
          | cons d rest =>
              have different : c ≠ d := by
                rintro rfl
                simp [stops_cons.mp stops] at here
              simp [after?, different]
      | cons d text =>
          by_cases same : c = d
          · simp [after?, same, inductionHypothesis later]
          · simp [after?, same]

end Text

namespace Dump

open DeadSymbols.Text

variable {text tail piece rest : List Char}

/-! ### The first mark -/

/-- The text holds the mark, and `tail` is what follows its first occurrence. -/
def AfterFirstMark (text tail : List Char) : Prop :=
  ∃ before, text = before ++ (selectorMark ++ tail) ∧
    ∀ other more, text = other ++ (selectorMark ++ more) → before.length ≤ other.length

theorem afterFirstMark_mark : AfterFirstMark (selectorMark ++ rest) tail ↔ rest = tail := by
  constructor
  · rintro ⟨before, whole, first⟩
    have empty : before = [] := List.eq_nil_of_length_eq_zero (Nat.le_zero.mp (first [] rest rfl))
    rw [empty, List.nil_append] at whole
    exact List.append_cancel_left whole
  · rintro rfl
    exact ⟨[], rfl, fun _ _ _ => Nat.zero_le _⟩

theorem afterFirstMark_cons {c : Char} (noMark : after? selectorMark (c :: rest) = none) :
    AfterFirstMark (c :: rest) tail ↔ AfterFirstMark rest tail := by
  have notHere (more : List Char) : c :: rest ≠ [] ++ (selectorMark ++ more) := by
    intro whole
    rw [List.nil_append, ← after?_eq_some_iff, noMark] at whole
    exact Option.some_ne_none more whole.symm
  constructor
  · rintro ⟨before, whole, first⟩
    cases before with
    | nil => exact absurd whole (notHere tail)
    | cons d before =>
        refine ⟨before, (List.cons.inj whole).2, ?_⟩
        intro other more split
        have shorter := first (c :: other) more (by rw [split, List.cons_append])
        simpa using shorter
  · rintro ⟨before, rfl, first⟩
    refine ⟨c :: before, rfl, ?_⟩
    intro other more split
    cases other with
    | nil => exact absurd split (notHere more)
    | cons d other =>
        have shorter := first other more (List.cons.inj split).2
        simpa using shorter

/-- What follows the first mark of a text. -/
def afterMark? : List Char → Option (List Char)
  | [] => none
  | c :: more => (after? selectorMark (c :: more)).or (afterMark? more)

theorem afterMark?_mark : afterMark? (selectorMark ++ rest) = some rest := by
  obtain ⟨c, more, whole⟩ : ∃ c more, selectorMark ++ rest = c :: more := ⟨_, _, rfl⟩
  rw [whole, afterMark?, ← whole, after?_append, Option.some_or]

theorem afterMark?_cons {c : Char} (noMark : after? selectorMark (c :: rest) = none) :
    afterMark? (c :: rest) = afterMark? rest := by
  rw [afterMark?, noMark, Option.none_or]

theorem afterMark?_eq_some_iff : afterMark? text = some tail ↔ AfterFirstMark text tail := by
  induction text with
  | nil =>
      refine iff_of_false (Option.some_ne_none tail).symm ?_
      rintro ⟨before, whole, _⟩
      have marked : selectorMark ≠ [] := by decide
      simp [marked] at whole
  | cons c more inductionHypothesis =>
      cases found : after? selectorMark (c :: more) with
      | some rest =>
          rw [after?_eq_some_iff.mp found, afterMark?_mark, afterFirstMark_mark, Option.some.injEq]
      | none => rw [afterMark?_cons found, afterFirstMark_cons found, inductionHypothesis]

/-! ### Pieces between line ends -/

/-- The characters that end a line. -/
def isLineBreak (c : Char) : Bool := c = '\r' || c = '\n'

theorem isLineBreak_eq_false_iff {c : Char} : isLineBreak c = false ↔ inLine c = true := by
  simp [isLineBreak, inLine]

theorem inLine_of_single (single : SingleLine text) : ∀ c ∈ text, inLine c = true := by
  intro c member
  have notNewline : c ≠ '\n' := fun same => single.1 (same ▸ member)
  have notReturn : c ≠ '\r' := fun same => single.2 (same ▸ member)
  simp [inLine, notNewline, notReturn]

theorem splitOnP_unlines {texts : List (List Char)} (single : ∀ line ∈ texts, SingleLine line) :
    (unlines texts).splitOnP isLineBreak = texts ++ [[]] := by
  induction texts with
  | nil => rfl
  | cons line texts inductionHypothesis =>
      obtain ⟨here, later⟩ := List.forall_mem_cons.mp single
      have unbroken : ∀ c ∈ line, isLineBreak c = false :=
        fun c member => isLineBreak_eq_false_iff.mpr (inLine_of_single here c member)
      rw [unlines_cons, List.splitOnP_append_cons_of_forall_mem unbroken '\n' rfl,
        inductionHypothesis later, List.cons_append]

/-- Inside a line the scan takes what follows the first mark, up to the end of the line. -/
theorem markedTexts_piece (unbroken : ∀ c ∈ piece, inLine c = true) (stops : Stops inLine rest) :
    markedTexts (piece ++ rest) = (afterMark? piece).toList ++ markedTexts rest := by
  have markUnbroken : ∀ c ∈ selectorMark, inLine c = true := List.all_eq_true.mp (by decide)
  induction piece with
  | nil => rfl
  | cons c piece inductionHypothesis =>
      have joined : after? selectorMark (c :: piece ++ rest) =
          (after? selectorMark (c :: piece)).map (· ++ rest) := after?_append_stops markUnbroken stops
      cases found : after? selectorMark (c :: piece) with
      | some tail =>
          have whole := after?_eq_some_iff.mp found
          have tailUnbroken : ∀ d ∈ tail, inLine d = true := by
            intro d member
            exact unbroken d (whole ▸ List.mem_append_right _ member)
          rw [whole, afterMark?_mark, List.append_assoc, markedTexts_mark,
            takeWhile_append_stops tailUnbroken stops, dropWhile_append_stops tailUnbroken stops]
          rfl
      | none =>
          rw [found] at joined
          rw [afterMark?_cons found, ← inductionHypothesis (List.forall_mem_cons.mp unbroken).2]
          exact markedTexts_cons joined

/-- The scan finds what each piece between line ends holds behind its first mark. -/
theorem markedTexts_eq_filterMap (text : List Char) :
    markedTexts text = (text.splitOnP isLineBreak).filterMap afterMark? := by
  -- The induction has a piece in front, which grows up to the next line end.
  suffices withFront : ∀ piece : List Char, (∀ c ∈ piece, inLine c = true) →
      markedTexts (piece ++ text) = ((piece ++ text).splitOnP isLineBreak).filterMap afterMark? from
    withFront [] (List.forall_mem_nil _)
  induction text with
  | nil =>
      intro piece unbroken
      have single : piece.splitOnP isLineBreak = [piece] :=
        List.splitOnP_eq_singleton fun c member => isLineBreak_eq_false_iff.mpr (unbroken c member)
      rw [markedTexts_piece unbroken stops_nil, List.append_nil, single, markedTexts_nil]
      cases found : afterMark? piece <;> simp [found]
  | cons c text inductionHypothesis =>
      intro piece unbroken
      by_cases inside : inLine c = true
      · have longer : ∀ d ∈ piece ++ [c], inLine d = true :=
          List.forall_mem_append.mpr ⟨unbroken, List.forall_mem_singleton.mpr inside⟩
        simpa using inductionHypothesis (piece ++ [c]) longer
      · have breaks : isLineBreak c = true := by
          simpa using mt isLineBreak_eq_false_iff.mp inside
        have noMark : after? selectorMark (c :: text) = none := by
          apply if_neg
          rintro rfl
          exact inside (by decide)
        rw [markedTexts_piece unbroken (stops_cons.mpr (Bool.eq_false_iff.mpr inside)),
          markedTexts_cons noMark, List.splitOnP_append_cons_of_forall_mem
            (fun d member => isLineBreak_eq_false_iff.mpr (unbroken d member)) c breaks]
        have later := inductionHypothesis [] (List.forall_mem_nil _)
        rw [List.nil_append] at later
        rw [later]
        cases found : afterMark? piece <;> simp [found]

/-! ### The searched region -/

/-- The part of a text that is searched: the body of its first data section with selector references,
or the whole text when no header announces one. -/
def SearchedRegion (text region : List Char) : Prop :=
  ∃ preamble blocks, IsCut true text preamble blocks ∧
    ((∃ left block right, blocks = left ++ block :: right ∧
        (∀ earlier ∈ left, ¬ earlier.header.Announces selectorReferences) ∧
          block.header.Announces selectorReferences ∧ block.body = region) ∨
      (∀ block ∈ blocks, ¬ block.header.Announces selectorReferences) ∧ region = text)

theorem sectionBody?_eq_none_iff_blocks {name : String} :
    sectionBody? text name = none ↔ ∀ block ∈ (layout text).blocks, ¬ block.header.Announces name := by
  simp only [sectionBody?, Option.map_eq_none_iff, List.find?_eq_none, Header.names_iff]

theorem searchedRegion_iff {region : List Char} :
    SearchedRegion text region ↔ region = (sectionBody? text selectorReferences).getD text := by
  have isCut : IsCut true text (layout text).preamble (layout text).blocks := isCut_cut true text
  constructor
  · rintro ⟨preamble, blocks, other, found | ⟨none, rfl⟩⟩
    · rw [(other.unique isCut).2, ← sectionBody?_eq_some_iff] at found
      rw [found, Option.getD_some]
    · rw [(other.unique isCut).2, ← sectionBody?_eq_none_iff_blocks] at none
      rw [none, Option.getD_none]
  · rintro rfl
    refine ⟨_, _, isCut, ?_⟩
    cases found : sectionBody? text selectorReferences with
    | some region => exact Or.inl (sectionBody?_eq_some_iff.mp found)
    | none => exact Or.inr ⟨sectionBody?_eq_none_iff_blocks.mp found, rfl⟩

theorem mem_selectorsIn {selector : String} :
    selector ∈ selectorsIn text ↔
      selector ≠ "" ∧ ∃ marked ∈ markedTexts text, trim marked = selector.toList := by
  simp only [selectorsIn, NameSet.mem_ofList, List.mem_map, List.mem_filter]
  constructor
  · rintro ⟨_, ⟨⟨marked, member, rfl⟩, notEmpty⟩, rfl⟩
    refine ⟨?_, marked, member, String.toList_ofList.symm⟩
    simpa [String.ofList_eq_empty_iff] using notEmpty
  · rintro ⟨notEmpty, marked, member, trimmed⟩
    refine ⟨selector.toList, ⟨⟨marked, member, trimmed⟩, ?_⟩, String.ofList_toList⟩
    simpa using notEmpty

namespace Printed

/-! ### Written references -/

/-- A selector that a line can show: not empty, without line ends, and as trimming leaves it. It may
hold blanks and marks. -/
structure Showable (selector : String) : Prop where
  notEmpty : selector ≠ ""
  single : SingleLine selector.toList
  trimmed : trim selector.toList = selector.toList

/-- Showable selectors are what the scan makes of them. -/
theorem selectorsIn_of_markedTexts {names : List String}
    (marked : markedTexts text = names.map String.toList) (showable : ∀ name ∈ names, Showable name) :
    selectorsIn text = NameSet.ofList names := by
  apply NameSet.ext
  intro selector
  rw [mem_selectorsIn, marked, NameSet.mem_ofList]
  constructor
  · rintro ⟨_, _, member, trimmed⟩
    obtain ⟨name, inNames, rfl⟩ := List.mem_map.mp member
    rw [(showable name inNames).trimmed, String.toList_inj] at trimmed
    rwa [← trimmed]
  · intro member
    exact ⟨(showable selector member).notEmpty, _, List.mem_map_of_mem member,
      (showable selector member).trimmed⟩

/-- The line of a reference. -/
def referenceLine (place : Address) (selector : List Char) : List Char :=
  place.digits ++ ("  ".toList ++ (selectorMark ++ selector))

/-- A section of selector references, one to a line. -/
def referencesText (segment : Segment) (references : List (Address × String)) : List Char :=
  unlines (headerLine segment.chars selectorReferences.toList ::
    references.map fun reference => referenceLine reference.1 reference.2.toList)

theorem afterMark?_skip {word : List Char} (unmarked : '_' ∉ word) :
    afterMark? (word ++ rest) = afterMark? rest := by
  induction word with
  | nil => rfl
  | cons c word inductionHypothesis =>
      obtain ⟨here, later⟩ := not_or.mp (mt List.mem_cons.mpr unmarked)
      have noMark : after? selectorMark (c :: (word ++ rest)) = none := if_neg here
      rw [List.cons_append, afterMark?_cons noMark, inductionHypothesis later]

theorem afterMark?_referenceLine (place : Address) (selector : List Char) :
    afterMark? (referenceLine place selector) = some selector := by
  have digits : '_' ∉ place.digits := by
    intro member
    exact absurd (place.isHex.2 '_' member) (by decide)
  rw [referenceLine, afterMark?_skip digits, afterMark?_skip (by decide), afterMark?_mark]

theorem single_referenceLine {selector : List Char} (place : Address)
    (single : SingleLine selector) : SingleLine (referenceLine place selector) :=
  place.single.append (.append (by decide) (.append (by decide) single))

theorem noSection_referenceLine (place : Address) (selector : List Char) :
    NoSection (referenceLine place selector) :=
  startsWith_digits_keyword place "Contents of" (by decide)

section References

variable {α : Type} {references : List α} {place : α → Address} {selector : α → List Char}

theorem single_referenceLines (single : ∀ reference ∈ references, SingleLine (selector reference)) :
    ∀ line ∈ references.map fun reference => referenceLine (place reference) (selector reference),
      SingleLine line := by
  intro line member
  obtain ⟨reference, inReferences, rfl⟩ := List.mem_map.mp member
  exact single_referenceLine (place reference) (single reference inReferences)

theorem noSection_referenceLines :
    ∀ line ∈ references.map fun reference => referenceLine (place reference) (selector reference),
      NoSection line := by
  intro line member
  obtain ⟨reference, _, rfl⟩ := List.mem_map.mp member
  exact noSection_referenceLine (place reference) (selector reference)

theorem markedTexts_referenceLines
    (single : ∀ reference ∈ references, SingleLine (selector reference)) :
    markedTexts (unlines (references.map fun reference =>
        referenceLine (place reference) (selector reference))) = references.map selector := by
  have found : (afterMark? ∘ fun reference => referenceLine (place reference) (selector reference)) =
      some ∘ selector :=
    funext fun reference => afterMark?_referenceLine (place reference) (selector reference)
  rw [markedTexts_eq_filterMap, splitOnP_unlines (single_referenceLines single),
    List.filterMap_append, List.filterMap_map, found, List.filterMap_eq_map]
  exact List.append_nil _

end References

/-- Lines under a header of selector references are the body of that section. -/
theorem sectionBody?_headed (segment : Segment) {texts : List (List Char)}
    (single : ∀ line ∈ texts, SingleLine line) (noSection : ∀ line ∈ texts, NoSection line) :
    sectionBody? (unlines (headerLine segment.chars selectorReferences.toList :: texts))
      selectorReferences = some ('\n' :: unlines texts) := by
  have isName : Run isNameChar selectorReferences.toList := SectionKind.selectorReferences.isName
  have isWord : Run isWordChar selectorReferences.toList := SectionKind.selectorReferences.isWord
  have cutTexts : cut true (unlines texts ++ []) =
      (unlines texts ++ (cut true []).1, (cut true []).2) := cut_lines single noSection
  rw [List.append_nil, cut_nil, List.append_nil] at cutTexts
  have blocks : (layout (unlines (headerLine segment.chars selectorReferences.toList ::
      texts))).blocks = [{ header := ⟨headerLine segment.chars selectorReferences.toList,
        segment.chars, selectorReferences.toList⟩, body := '\n' :: unlines texts }] := by
    rw [unlines_cons]
    change (cut true _).2 = _
    rw [cut_headerLine segment.isName isName, cutTexts]
  apply sectionBody?_eq_some_iff.mpr
  refine ⟨[], _, [], blocks, List.forall_mem_nil _, ⟨⟨segment.suffix, ?_⟩, ?_⟩, rfl⟩
  · exact trim_of_isWord segment.isWord
  · exact trim_of_isWord isWord

theorem referencedSelectors_referencesText (segment : Segment)
    {references : List (Address × String)}
    (showable : ∀ reference ∈ references, Showable reference.2) :
    referencedSelectors (referencesText segment references) =
      NameSet.ofList (references.map Prod.snd) := by
  have single : ∀ reference ∈ references, SingleLine reference.2.toList :=
    fun reference member => (showable reference member).single
  rw [referencedSelectors, referencesText,
    sectionBody?_headed segment (single_referenceLines single) noSection_referenceLines,
    Option.getD_some]
  apply selectorsIn_of_markedTexts
  · rw [markedTexts_cons rfl, markedTexts_referenceLines single, List.map_map]
    rfl
  · intro name member
    obtain ⟨reference, inReferences, rfl⟩ := List.mem_map.mp member
    exact showable reference inReferences

end Printed

/-- The selectors that a text references: the searched region is cut at every carriage return and at
every newline, and each piece with a mark gives what follows its first mark, trimmed, unless that is
empty. Selectors that are written one to a line under a header of their section are read back
exactly, in any order and under any addresses. -/
theorem referencedSelectors_exact :
    (∀ text : List Char, ∃ region, (∀ other, SearchedRegion text other ↔ other = region) ∧
      ∀ selector, selector ∈ referencedSelectors text ↔
        selector ≠ "" ∧ ∃ piece ∈ region.splitOnP isLineBreak, ∃ tail,
          AfterFirstMark piece tail ∧ TrimsTo tail selector.toList) ∧
      ∀ (segment : Printed.Segment) (references : List (Printed.Address × String)),
        (∀ reference ∈ references, Printed.Showable reference.2) →
        referencedSelectors (Printed.referencesText segment references) =
          NameSet.ofList (references.map Prod.snd) := by
  refine ⟨fun text => ⟨_, fun other => searchedRegion_iff, ?_⟩, ?_⟩
  · intro selector
    simp only [referencedSelectors, mem_selectorsIn, markedTexts_eq_filterMap, List.mem_filterMap,
      afterMark?_eq_some_iff, trim_eq_iff]
    constructor
    · rintro ⟨notEmpty, tail, ⟨piece, member, first⟩, trims⟩
      exact ⟨notEmpty, piece, member, tail, first, trims⟩
    · rintro ⟨notEmpty, piece, member, tail, first, trims⟩
      exact ⟨notEmpty, tail, ⟨piece, member, first⟩, trims⟩
  · intro segment references showable
    exact Printed.referencedSelectors_referencesText segment showable

/-- A selector with a blank and a mark inside, and a plain one. -/
theorem referencedSelectors_exact_marked :
    let text := ("Contents of (__DATA_CONST,__objc_selrefs) section\n" ++
      "0000000100012200  __TEXT:__objc_methname:run\n" ++
      "0000000100012208  __TEXT:__objc_methname:go __TEXT:__objc_methname:on\n").toList
    referencedSelectors text = NameSet.ofList ["run", "go __TEXT:__objc_methname:on"] := by
  intro text
  have written : Printed.referencesText ⟨"_CONST".toList, by decide⟩
      [(⟨"0000000100012200".toList, by decide⟩, "run"),
        (⟨"0000000100012208".toList, by decide⟩, "go __TEXT:__objc_methname:on")] = text := by
    decide +kernel
  rw [← written]
  apply referencedSelectors_exact.2
  have plain : Printed.Showable "run" := ⟨by decide, by decide, by decide⟩
  have marked : Printed.Showable "go __TEXT:__objc_methname:on" := ⟨by decide, by decide, by decide⟩
  exact List.forall_mem_cons.mpr ⟨plain, List.forall_mem_singleton.mpr marked⟩

end Dump

end DeadSymbols
