import DeadSymbols.Proofs.Headers

/-!
Contract: a text has one cut at its section headers.

A cut gives the text before the first header and a block for each header. It is right when its parts
make up the text, each of its headers stands where the cut has it, and no header lies inside one of
the regions between them. Headers do not overlap, so a text has one such cut, and it has every header
of the text. The recursive `cut` finds it, from the left to the right. Looking a section up in the
layout is then looking for the first header that announces it.

Owns: `RegionAt`, `IsCut`, uniqueness, the bodies of sections.
-/

namespace DeadSymbols.Dump

open DeadSymbols.Text

variable {text body before region after front back : List Char} {blocks : List Block}
  {header : Header} {lineStart : Bool}

/-- The text of blocks, one after another. -/
def blocksText (blocks : List Block) : List Char :=
  blocks.flatMap fun block => block.header.text ++ block.body

@[simp] theorem blocksText_nil : blocksText [] = [] := rfl

@[simp] theorem blocksText_cons {block : Block} :
    blocksText (block :: blocks) = block.header.text ++ (block.body ++ blocksText blocks) := by
  simp [blocksText]

/-- A region between headers, with the text before it and the text after it: the text before the
first header, or a region of what follows this header. -/
inductive RegionAt : List Char → List Block → List Char → List Char → List Char → Prop where
  | first (body : List Char) (blocks : List Block) :
      RegionAt body blocks [] body (blocksText blocks)
  | later (body : List Char) {block : Block} {blocks : List Block} {before region after : List Char}
      (regionAt : RegionAt block.body blocks before region after) :
      RegionAt body (block :: blocks) (body ++ block.header.text ++ before) region after

/-- A text is cut at its headers. -/
structure IsCut (lineStart : Bool) (text body : List Char) (blocks : List Block) : Prop where
  whole : text = body ++ blocksText blocks
  headers : ∀ left block right, blocks = left ++ block :: right →
    HeaderAt lineStart text (body ++ blocksText left) block.header (block.body ++ blocksText right)
  /-- No header starts and ends inside a region. -/
  regions : ∀ before region after, RegionAt body blocks before region after →
    ∀ front header back, HeaderAt lineStart text front header back → before <+: front →
      ¬ front ++ header.text <+: before ++ region

/-! ### A cut and the cut of what follows its first header -/

section First

variable {block : Block}

theorem IsCut.first (isCut : IsCut lineStart text body (block :: blocks)) :
    HeaderAt lineStart text body block.header (block.body ++ blocksText blocks) := by
  simpa using isCut.headers [] block blocks rfl

/-- Behind a header the text is cut on its own. -/
theorem IsCut.rest (isCut : IsCut lineStart text body (block :: blocks)) :
    IsCut false (block.body ++ blocksText blocks) block.body blocks := by
  have stands := isCut.first
  refine ⟨rfl, ?_, ?_⟩
  · intro left other right split
    have later := isCut.headers (block :: left) other right (by rw [split, List.cons_append])
    exact stands.behind_iff.mp (by simpa using later)
  · intro before region after regionAt front header back inner starts ends
    refine isCut.regions _ _ _ (.later body regionAt) _ _ _ (stands.behind_iff.mpr inner) ?_ ?_
    · exact (List.prefix_append_right_inj _).mpr starts
    · rw [List.append_assoc, List.append_assoc _ before]
      exact (List.prefix_append_right_inj _).mpr ends

/-- A header of the text is the first one of its cut, or stands behind it. -/
theorem IsCut.header_cases (isCut : IsCut lineStart text body (block :: blocks))
    (stands : HeaderAt lineStart text front header back) :
    (front = body ∧ header = block.header ∧ back = block.body ++ blocksText blocks) ∨
      body ++ block.header.text <+: front := by
  rcases stands.apart isCut.first with same | inside | behind
  · exact Or.inl same
  · exact absurd inside
      (isCut.regions _ _ _ (.first body _) _ _ _ stands (List.nil_prefix))
  · exact Or.inr behind

end First

theorem IsCut.headless (isCut : IsCut lineStart text body []) :
    ¬ HeaderAt lineStart text front header back := by
  intro stands
  have whole : text = body := by simpa using isCut.whole
  refine isCut.regions _ _ _ (.first body []) _ _ _ stands List.nil_prefix ?_
  rw [List.nil_append, ← whole, stands.whole, ← List.append_assoc]
  exact List.prefix_append _ _

/-! ### One cut -/

theorem IsCut.unique {otherBody : List Char} {otherBlocks : List Block}
    (isCut : IsCut lineStart text body blocks) (other : IsCut lineStart text otherBody otherBlocks) :
    body = otherBody ∧ blocks = otherBlocks := by
  induction blocks generalizing lineStart text body otherBody otherBlocks with
  | nil =>
      cases otherBlocks with
      | nil =>
          have same := isCut.whole.symm.trans other.whole
          simp only [blocksText_nil, List.append_nil] at same
          exact ⟨same, rfl⟩
      | cons otherBlock otherLater => exact absurd other.first isCut.headless
  | cons block later inductionHypothesis =>
      cases otherBlocks with
      | nil => exact absurd isCut.first other.headless
      | cons otherBlock otherLater =>
          rcases isCut.header_cases other.first with ⟨rfl, sameHeader, sameRest⟩ | behind
          · have otherRest := other.rest
            rw [sameRest] at otherRest
            obtain ⟨sameBody, rfl⟩ := inductionHypothesis isCut.rest otherRest
            obtain ⟨blockHeader, blockBody⟩ := block
            obtain ⟨otherHeader, otherBlockBody⟩ := otherBlock
            obtain rfl : otherHeader = blockHeader := sameHeader
            obtain rfl : blockBody = otherBlockBody := sameBody
            exact ⟨rfl, rfl⟩
          · -- The first header of the one cut would lie before the first header of the other.
            exact absurd behind (other.regions _ _ _ (.first otherBody _) _ _ _ isCut.first
              List.nil_prefix)

/-- Every header of a text is a header of its cut. -/
theorem IsCut.exists_block (isCut : IsCut lineStart text body blocks)
    (stands : HeaderAt lineStart text front header back) :
    ∃ left block right, blocks = left ++ block :: right ∧ front = body ++ blocksText left ∧
      header = block.header ∧ back = block.body ++ blocksText right := by
  induction blocks generalizing lineStart text body front with
  | nil => exact absurd stands isCut.headless
  | cons first later inductionHypothesis =>
      rcases isCut.header_cases stands with ⟨rfl, rfl, rfl⟩ | ⟨between, rfl⟩
      · exact ⟨[], first, later, rfl, (List.append_nil front).symm, rfl, rfl⟩
      · obtain ⟨left, block, right, rfl, rfl, rfl, rfl⟩ :=
          inductionHypothesis isCut.rest (isCut.first.behind_iff.mp stands)
        exact ⟨first :: left, block, right, rfl, by simp, rfl, rfl⟩

/-! ### The cut from the left to the right -/

theorem isCut_nil : IsCut lineStart [] [] [] := by
  refine ⟨rfl, ?_, ?_⟩
  · intro left block right split
    simp at split
  · intro before region after _ front header back stands
    have empty := stands.whole.symm
    rw [List.append_eq_nil_iff, List.append_eq_nil_iff] at empty
    exact absurd empty.2.1 stands.written.ne_nil

theorem startsLine_singleton {c : Char} : decide (c = '\n') = true ↔ StartsLine lineStart [c] := by
  simp [StartsLine, Closed]

/-- A character at which no header starts belongs to the region before the next header. -/
theorem IsCut.cons {c : Char} (noHeader : headerAt? lineStart (c :: text) = none)
    (isCut : IsCut (c = '\n') text body blocks) : IsCut lineStart (c :: text) (c :: body) blocks := by
  have leads : decide (c = '\n') = true ↔ StartsLine lineStart [c] := startsLine_singleton
  refine ⟨by rw [isCut.whole, List.cons_append], ?_, ?_⟩
  · intro left block right split
    exact (headerAt_append leads).mpr (isCut.headers left block right split)
  · intro before region after regionAt front header back stands starts ends
    cases front with
    | nil =>
        rw [headerAt_nil_iff, noHeader] at stands
        exact Option.some_ne_none _ stands.symm
    | cons d front =>
        obtain ⟨rfl, _⟩ := List.cons.inj stands.whole
        have inner : HeaderAt (c = '\n') text front header back := (headerAt_append leads).mp stands
        cases regionAt with
        | first =>
            have within : front ++ header.text <+: body := (List.cons_prefix_cons.mp ends).2
            exact isCut.regions _ _ _ (.first body blocks) _ _ _ inner List.nil_prefix within
        | later _ regionAt =>
            exact isCut.regions _ _ _ (.later body regionAt) _ _ _ inner
              (List.cons_prefix_cons.mp starts).2 (List.cons_prefix_cons.mp ends).2

/-- A header opens a block, whose body goes on to the next header. -/
theorem IsCut.cons_header (stands : HeaderAt lineStart text [] header after)
    (isCut : IsCut false after body blocks) :
    IsCut lineStart text [] ({ header, body } :: blocks) := by
  refine ⟨by simp [stands.whole, isCut.whole], ?_, ?_⟩
  · intro left block right split
    cases left with
    | nil =>
        obtain ⟨rfl, rfl⟩ := List.cons.inj split
        rw [isCut.whole] at stands
        exact stands
    | cons first left =>
        obtain ⟨rfl, laterSplit⟩ := List.cons.inj split
        have later := stands.behind_iff.mpr (isCut.headers left block right laterSplit)
        simpa using later
  · intro before region behind regionAt front other back otherStands starts ends
    cases regionAt with
    | first =>
        have empty := List.prefix_nil.mp ends
        exact otherStands.written.ne_nil (List.append_eq_nil_iff.mp empty).2
    | @later _ _ _ before _ _ regionAt =>
        obtain ⟨gap, rfl⟩ := starts
        rw [List.append_assoc _ before] at otherStands
        refine isCut.regions _ _ _ regionAt _ _ _ (stands.behind_iff.mp otherStands)
          (List.prefix_append _ _) ?_
        have longer : header.text ++ (before ++ gap ++ other.text) <+:
            header.text ++ (before ++ region) := by
          simpa using ends
        exact (List.prefix_append_right_inj _).mp longer

/-- Cutting from the left to the right gives the cut of a text. -/
theorem isCut_cut (lineStart : Bool) (text : List Char) :
    IsCut lineStart text (cut lineStart text).1 (cut lineStart text).2 := by
  induction length : text.length using Nat.strong_induction_on generalizing text lineStart with
  | _ length inductionHypothesis =>
    subst length
    cases text with
    | nil =>
        rw [cut_nil]
        exact isCut_nil
    | cons c text =>
        cases found : headerAt? lineStart (c :: text) with
        | none =>
            rw [cut_cons found]
            exact (inductionHypothesis text.length (length_lt_cons c text) _ text rfl).cons found
        | some result =>
            obtain ⟨header, rest⟩ := result
            have stands := headerAt_nil_iff.mpr found
            cases lineStart with
            | false => exact absurd found.symm (Option.some_ne_none _)
            | true =>
                rw [cut_header found]
                exact (inductionHypothesis rest.length (headerAt?_length found) false rest
                  rfl).cons_header stands

/-- The layout of a text is its only cut. -/
theorem isCut_iff_layout {dump : List Char} {other : Layout} :
    IsCut true dump other.preamble other.blocks ↔ other = layout dump := by
  have isCut : IsCut true dump (layout dump).preamble (layout dump).blocks := isCut_cut true dump
  constructor
  · intro otherCut
    obtain ⟨samePreamble, sameBlocks⟩ := otherCut.unique isCut
    obtain ⟨preamble, blocks⟩ := other
    rw [show preamble = _ from samePreamble, show blocks = _ from sameBlocks]
  · rintro rfl
    exact isCut

/-! ### The bodies of sections -/

/-- Behind each of its headers the text is cut on its own. -/
theorem IsCut.behind {left right : List Block} {block : Block}
    (isCut : IsCut lineStart text body (left ++ block :: right)) :
    IsCut false (block.body ++ blocksText right) block.body right := by
  induction left generalizing lineStart text body with
  | nil => exact isCut.rest
  | cons first left inductionHypothesis => exact inductionHypothesis isCut.rest

theorem Header.Written.not_endsLine (written : header.Written) :
    ¬ EndsLine (header.text ++ after) := by
  obtain ⟨indent, tail, whole, indented, _⟩ := written
  intro ends
  rw [whole] at ends
  cases indent with
  | nil => exact absurd (ends 'C' rfl) (by decide)
  | cons c indent =>
      have newline : c = '\n' := by simpa using ends c rfl
      exact absurd (indented c List.mem_cons_self) (by rw [newline]; decide)

/-- The region between two headers has no header when it is read as a text of its own, though a text
starts a line and ends one. The region starts with the line end of the header before it, and the
header behind it starts a line. -/
theorem IsCut.body_headless (isCut : IsCut false text body blocks) (ends : EndsLine text) :
    IsCut true body body [] := by
  refine ⟨by simp, ?_, ?_⟩
  · intro left block right split
    simp at split
  · intro before region after regionAt front header back stands _ inside
    have closed : Closed front := by
      rcases stands.startsLine with ⟨rfl, _⟩ | closed
      · rw [isCut.whole, stands.whole, List.nil_append, List.append_assoc] at ends
        exact absurd ends stands.written.not_endsLine
      · exact closed
    have endsOuter : EndsLine (back ++ blocksText blocks) := by
      cases back with
      | cons c back => exact stops_cons.mpr (stops_cons.mp stands.endsLine)
      | nil =>
          cases blocks with
          | nil => exact stops_nil
          | cons block later =>
              rcases isCut.first.startsLine with ⟨_, never⟩ | bodyClosed
              · exact absurd never Bool.false_ne_true
              · rw [stands.whole, List.append_nil] at bodyClosed
                exact absurd (bodyClosed.of_append stands.written.ne_nil) stands.written.not_closed
    have outer : HeaderAt false text front header (back ++ blocksText blocks) := by
      refine ⟨?_, Or.inr closed, stands.written, endsOuter⟩
      rw [isCut.whole]
      nth_rewrite 1 [stands.whole]
      simp only [List.append_assoc]
    have within : front ++ header.text <+: body := by
      rw [stands.whole, ← List.append_assoc]
      exact List.prefix_append _ _
    exact isCut.regions _ _ _ (.first body blocks) _ _ _ outer List.nil_prefix within

theorem layout_body {left right : List Block} {block : Block}
    (isCut : IsCut lineStart text body (left ++ block :: right)) :
    layout block.body = { preamble := block.body, blocks := [] } := by
  have ends := (isCut.headers left block right rfl).endsLine
  exact (isCut_iff_layout.mp (isCut.behind.body_headless ends)).symm

/-- The header announces a section of a data segment: the segment's name, trimmed, starts with
`__DATA`, and the section's name, trimmed, is the given one. -/
def Header.Announces (header : Header) (name : String) : Prop :=
  (∃ rest, trim header.segment = "__DATA".toList ++ rest) ∧ trim header.name = name.toList

theorem Header.names_iff {name : String} : header.names name = true ↔ header.Announces name := by
  rw [Header.names, Bool.and_eq_true, startsWith_iff, beq_iff_eq, Header.Announces]

theorem sectionBody?_eq_some_iff {dump : List Char} {name : String} :
    sectionBody? dump name = some region ↔
      ∃ left block right, (layout dump).blocks = left ++ block :: right ∧
        (∀ earlier ∈ left, ¬ earlier.header.Announces name) ∧ block.header.Announces name ∧
          block.body = region := by
  simp only [sectionBody?, Option.map_eq_some_iff, List.find?_eq_some_iff_append, Bool.not_eq_true',
    ← Bool.not_eq_true, Header.names_iff]
  constructor
  · rintro ⟨block, ⟨announces, left, right, split, none⟩, rfl⟩
    exact ⟨left, block, right, split, none, announces, rfl⟩
  · rintro ⟨left, block, right, split, none, announces, rfl⟩
    exact ⟨block, ⟨announces, left, right, split, none⟩, rfl⟩

/-- A text has one cut at its headers, and every header that stands in it is one of the cut. The body
of a section is the region behind the first header that announces it, there is none exactly when no
header does, and a body has no sections of its own. -/
theorem layout_and_sections_exact (dump : List Char) :
    (∀ other : Layout, IsCut true dump other.preamble other.blocks ↔ other = layout dump) ∧
      (∀ before header after, HeaderAt true dump before header after ↔
        ∃ left block right, (layout dump).blocks = left ++ block :: right ∧
          before = (layout dump).preamble ++ blocksText left ∧ header = block.header ∧
            after = block.body ++ blocksText right) ∧
      ∀ name : String,
        (∀ region, sectionBody? dump name = some region ↔
          ∃ left block right, (layout dump).blocks = left ++ block :: right ∧
            (∀ earlier ∈ left, ¬ earlier.header.Announces name) ∧ block.header.Announces name ∧
              block.body = region) ∧
        (sectionBody? dump name = none ↔
          ∀ before header after, HeaderAt true dump before header after →
            ¬ header.Announces name) ∧
        ∀ region other, sectionBody? dump name = some region → sectionBody? region other = none := by
  have isCut : IsCut true dump (layout dump).preamble (layout dump).blocks := isCut_cut true dump
  have headers (before : List Char) (header : Header) (after : List Char) :
      HeaderAt true dump before header after ↔
        ∃ left block right, (layout dump).blocks = left ++ block :: right ∧
          before = (layout dump).preamble ++ blocksText left ∧ header = block.header ∧
            after = block.body ++ blocksText right := by
    constructor
    · exact isCut.exists_block
    · rintro ⟨left, block, right, split, rfl, rfl, rfl⟩
      exact isCut.headers left block right split
  refine ⟨fun other => isCut_iff_layout, headers, ?_⟩
  intro name
  refine ⟨fun region => sectionBody?_eq_some_iff, ?_, ?_⟩
  · rw [sectionBody?, Option.map_eq_none_iff, List.find?_eq_none]
    simp only [Header.names_iff]
    constructor
    · intro none before header after stands
      obtain ⟨left, block, right, split, _, rfl, _⟩ := isCut.exists_block stands
      exact none block (split ▸ List.mem_append_right left List.mem_cons_self)
    · intro none block member
      obtain ⟨left, right, split⟩ := List.append_of_mem member
      exact none _ _ _ (isCut.headers left block right split)
  · intro region other found
    obtain ⟨left, block, right, split, _, _, rfl⟩ := sectionBody?_eq_some_iff.mp found
    rw [split] at isCut
    rw [sectionBody?, layout_body isCut]
    rfl

end DeadSymbols.Dump
