import DeadSymbols.Proofs.Extents
import DeadSymbols.Proofs.Layout

/-!
Contract: the records of a dump stand in the regions between its section headers.

Records and sections are found by two rules. A line closes a record when it starts with two words
after any white space, and a header is written in full, behind blanks and tabs only, and may run over
many lines. The first line of a header closes a record and is not one that opens a record. A further
line of a header starts inside one of its names, which end in a comma or a closing parenthesis, and a
line that opens a record has an opening parenthesis before any of these. So a record is over before a
header or starts behind it, and no header comes between the lines of a record.

Owns: records and headers that do not overlap, the region of a record.
-/

namespace DeadSymbols.Dump

open DeadSymbols.Text

variable {text body line front back start stop : List Char} {header : Header} {extent : Extent}
  {blocks : List Block} {lineStart : Bool}

/-! ### The lines of headers and the lines that open records -/

theorem LedBy.not_ledBy {word other : List Char} (led : LedBy word line)
    (leads : word ≠ [] ∧ Stops isSpace word) (otherLeads : other ≠ [] ∧ Stops isSpace other)
    (apart : clash other word = true) : ¬ LedBy other line := by
  obtain ⟨rest, trimmed⟩ := startsWith_iff.mp ((startsWith_trimStart_iff leads).mpr led)
  rw [← startsWith_trimStart_iff otherLeads, trimmed, startsWith_eq_false_of_clash apart]
  exact Bool.false_ne_true

theorem RecordLine.ledBy (record : RecordLine line) : LedBy "data".toList line := by
  obtain ⟨rest, indent, gap, digits, space, rfl, spaces, _⟩ := record
  refine ⟨indent, gap ++ "0x".toList ++ digits ++ space ++ "(struct class_ro_t *)".toList ++ rest, ?_,
    spaces⟩
  simp only [List.append_assoc]

/-- A line that opens a record has an opening parenthesis before a comma or a closing one. -/
theorem RecordLine.barrier {more : List Char} (record : RecordLine line) : Barrier (line ++ more) := by
  obtain ⟨rest, indent, gap, digits, space, rfl, spaces, isGap, isDigits, isSpaces⟩ := record
  have names : ∀ c ∈ indent ++ "data".toList ++ gap ++ "0x".toList ++ digits ++ space,
      isNameChar c = true := by
    have words : ("data".toList ++ "0x".toList).all isNameChar = true := by decide
    have inWords := List.all_eq_true.mp words
    intro c member
    simp only [List.mem_append] at member inWords
    rcases member with ((((inIndent | inData) | inGap) | inPrefix) | inDigits) | inSpace
    · exact isNameChar_of_class (spaces c inIndent) (by decide)
    · exact inWords c (Or.inl inData)
    · exact isNameChar_of_class (isGap.2 c inGap) (by decide)
    · exact inWords c (Or.inr inPrefix)
    · exact isNameChar_of_class (isDigits.2 c inDigits) (by decide)
    · exact isNameChar_of_class (isSpaces.2 c inSpace) (by decide)
  rw [List.append_assoc, List.append_assoc]
  exact barrier_of_opening names

/-! ### Records and headers -/

/-- Lines that are followed by another one end in a newline. -/
theorem closed_flatten {first later : List (List Char)} (split : pieces text = first ++ line :: later)
    (notEmpty : first ≠ []) : Closed first.flatten := by
  obtain ⟨others, last, rfl⟩ := (List.eq_nil_or_concat' first).resolve_left notEmpty
  rw [List.append_assoc] at split
  have closed : Closed last := (isLine_pieces split).closed (List.cons_ne_nil line later)
  rw [List.flatten_append, List.flatten_singleton, Closed,
    List.getLast?_append_of_ne_nil _ closed.ne_nil]
  exact closed

theorem HeaderAt.pieces_eq (stands : HeaderAt lineStart text front header back) :
    pieces text = pieces front ++ pieces (header.text ++ back) := by
  rw [stands.whole]
  rcases stands.startsLine with ⟨rfl, _⟩ | closed
  · rfl
  · exact pieces_join closed

/-- A header ends before a record starts, or starts behind its end. -/
theorem HeaderAt.extent_apart (stands : HeaderAt lineStart text front header back)
    (lies : extent.LiesIn (pieces text)) :
    front ++ header.text <+: extent.start ∨ extent.stop <+: front := by
  obtain ⟨indent, tail, others, lines, indented⟩ := stands.written.firstLine
  have contents : LedBy "Contents of".toList (indent ++ ("Contents of".toList ++ tail)) :=
    ⟨indent, tail, (List.append_assoc ..).symm, fun c member => isSpace_of_isIndent (indented c member)⟩
  generalize indent ++ ("Contents of".toList ++ tail) = first at lines contents
  have different : extent.header ≠ first := by
    rintro rfl
    exact lies.opens.ledBy.not_ledBy (by decide) (by decide) (by decide) contents
  have same := lies.whole.symm.trans stands.pieces_eq
  rw [lines] at same
  rcases List.append_eq_append_iff.mp same with ⟨gap, behind, tail⟩ | ⟨gap, behind, tail⟩
  · -- The first line of the header closes the record.
    right
    cases gap with
    | nil => exact absurd (List.cons.inj tail).1 different
    | cons opening gap =>
        obtain ⟨rfl, run⟩ := List.cons.inj tail
        have inGap : extent.lines <+: gap := by
          refine prefix_of_closing lies.goesOn ?_ run
          rintro _ ⟨rfl⟩
          exact Or.inr (Or.inl contents)
        obtain ⟨later, rfl⟩ := inGap
        have frontText := congrArg List.flatten behind
        rw [flatten_pieces] at frontText
        rw [frontText, Extent.stop, Extent.start]
        exact ⟨later.flatten, by simp⟩
  · -- The record is opened behind the first line of the header, and not by one of its lines.
    left
    cases gap with
    | nil => exact absurd (List.cons.inj tail).1.symm different
    | cons opening gap =>
        have headerLines := lines.trans tail
        have closed := closed_flatten headerLines (List.cons_ne_nil opening gap)
        have headerText := congrArg List.flatten headerLines
        rw [flatten_pieces, List.flatten_append, List.flatten_cons] at headerText
        have startText : extent.start = front ++ (opening :: gap).flatten := by
          rw [Extent.start, behind, List.flatten_append, flatten_pieces]
        rw [startText, List.prefix_append_right_inj]
        rcases List.append_eq_append_iff.mp headerText with ⟨more, whole, _⟩ | ⟨inside, whole, cut⟩
        · exact ⟨more, whole.symm⟩
        · exfalso
          have leaves : LeavesNames (inside ++ back) := stands.written.leavesNames whole closed
          rw [← cut] at leaves
          exact not_leavesNames_of_barrier lies.opens.barrier leaves

/-! ### The region of a record -/

/-- A part of the text that no header overlaps lies in one of the regions between the headers. -/
theorem IsCut.exists_region (isCut : IsCut lineStart text body blocks) (ordered : start <+: stop)
    (inText : stop <+: text)
    (apart : ∀ front header back, HeaderAt lineStart text front header back →
      front ++ header.text <+: start ∨ stop <+: front) :
    ∃ before region after, RegionAt body blocks before region after ∧ before <+: start ∧
      stop <+: before ++ region := by
  induction blocks generalizing lineStart text body start stop with
  | nil =>
      rw [isCut.whole, blocksText_nil, List.append_nil] at inText
      exact ⟨[], body, _, .first body [], List.nil_prefix, inText⟩
  | cons block blocks inductionHypothesis =>
      have stands := isCut.first
      rcases apart _ _ _ stands with ⟨gap, rfl⟩ | inBody
      · obtain ⟨between, rfl⟩ := ordered
        rw [stands.whole, ← List.append_assoc body, List.append_assoc _ gap,
          List.prefix_append_right_inj] at inText
        have apartBehind : ∀ front header back,
            HeaderAt false (block.body ++ blocksText blocks) front header back →
              front ++ header.text <+: gap ∨ gap ++ between <+: front := by
          intro front header back inner
          have outer := apart _ _ _ (stands.behind_iff.mpr inner)
          rwa [List.append_assoc _ front, List.append_assoc _ gap, List.prefix_append_right_inj,
            List.prefix_append_right_inj] at outer
        obtain ⟨before, region, after, regionAt, starts, ends⟩ :=
          inductionHypothesis isCut.rest (List.prefix_append gap between) inText apartBehind
        refine ⟨_, region, after, .later body regionAt, ?_, ?_⟩
        · exact (List.prefix_append_right_inj _).mpr starts
        · rw [List.append_assoc _ gap, List.append_assoc _ before]
          exact (List.prefix_append_right_inj _).mpr ends
      · exact ⟨[], body, _, .first body _, List.nil_prefix, inBody⟩

theorem Extent.LiesIn.stop_prefix (lies : extent.LiesIn (pieces text)) : extent.stop <+: text := by
  have whole := congrArg List.flatten lies.whole
  rw [flatten_pieces] at whole
  exact ⟨extent.after.flatten, by simp [whole, Extent.stop, Extent.start]⟩

/-- Records and sections agree. No header overlaps the lines of a record, be it the header line of
the record or a line of its body, so these lie together before the first header, between two headers
that follow one another, or behind the last one. -/
theorem records_lie_between_headers (dump : List Char) :
    ∃ extents : List Extent,
      (∀ extent, extent ∈ extents ↔ extent.LiesIn (pieces dump)) ∧
        List.Forall₂ Extent.Gives extents (rawRecords dump) ∧
        ∀ extent ∈ extents,
          (∀ front header back, HeaderAt true dump front header back →
            front ++ header.text <+: extent.start ∨ extent.stop <+: front) ∧
          ∃ before region after,
            RegionAt (layout dump).preamble (layout dump).blocks before region after ∧
              before <+: extent.start ∧ extent.stop <+: before ++ region := by
  refine ⟨extents dump, fun _ => mem_extents, extentsFrom_gives, ?_⟩
  intro extent member
  have lies := mem_extents.mp member
  have apart (front : List Char) (header : Header) (back : List Char)
      (stands : HeaderAt true dump front header back) :
      front ++ header.text <+: extent.start ∨ extent.stop <+: front :=
    stands.extent_apart lies
  refine ⟨apart, ?_⟩
  exact (isCut_cut true dump).exists_region (List.prefix_append _ _) lies.stop_prefix apart

end DeadSymbols.Dump
