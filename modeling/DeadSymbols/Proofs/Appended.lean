import DeadSymbols.Proofs.IndexOrder
import DeadSymbols.Proofs.Joined

/-!
Contract: the records of a dump that is written behind another one.

The line that follows a dump decides whether the last record of the dump is over. `ClosingLine`
describes the lines that end a record, as they are written, and they are the lines whose role is
not to be content. Behind a dump that ends its last line, a text that starts with such a line has
its own records, and the dump keeps its own. The index of both is then the merge of theirs.

Owns: `ClosingLine`, the records and the index of appended dumps.
-/

namespace DeadSymbols

open DeadSymbols.Name
open DeadSymbols.Text

namespace Dump

variable {line rest more : List Char}

/-! ### Lines that close a record -/

/-- A line `data 0x<address> (struct class_ro_t *)` and the text behind its pointer. -/
def PointerLine (line rest : List Char) : Prop :=
  ∃ indent gap digits space,
    line = indent ++ "data".toList ++ gap ++ "0x".toList ++ digits ++ space ++
        "(struct class_ro_t *)".toList ++ rest ∧
      Spaces indent ∧ Run isSpace gap ∧ Run isHexDigit digits ∧ Run isSpace space

/-- The header of a record: such a line, with any text behind the pointer. -/
def RecordLine (line : List Char) : Prop := ∃ rest, PointerLine line rest

/-- The header of a record, or a line that starts with one of two words after white space. -/
def ClosingLine (line : List Char) : Prop :=
  RecordLine line ∨ LedBy "Contents of".toList line ∨ LedBy "baseProtocols".toList line

theorem afterRecordPointer?_eq_some_iff :
    afterRecordPointer? line = some rest ↔ PointerLine line rest := by
  have isWord : Run isWordChar "data".toList := by decide
  have found : afterRecordPointer? line = some rest ↔
      ∃ space, Keyed "data".toList line (space ++ ("(struct class_ro_t *)".toList ++ rest)) ∧
        Run isSpace space := by
    simp only [afterRecordPointer?, bind, Option.bind_eq_some_iff, keyed_iff isWord]
    constructor
    · rintro ⟨spaced, foundWord, address, foundSpaces, pointer, foundAddress, opened, foundSpace,
        foundPointer⟩
      obtain ⟨space, rfl, isSpaces, _⟩ := afterSpaces?_eq_some_iff.mp foundSpace
      obtain rfl := after?_eq_some_iff.mp foundPointer
      exact ⟨space, ⟨spaced, address, foundWord, foundSpaces, foundAddress⟩, isSpaces⟩
    · rintro ⟨space, ⟨spaced, address, foundWord, foundSpaces, foundAddress⟩, isSpaces⟩
      refine ⟨spaced, foundWord, address, foundSpaces, _, foundAddress, _, ?_, after?_append⟩
      exact afterSpaces?_append isSpaces (stops_word (by decide))
  rw [found]
  constructor
  · rintro ⟨space, ⟨indent, gap, digits, rfl, spaces, isGap, isDigits, _⟩, isSpaces⟩
    refine ⟨indent, gap, digits, space, ?_, spaces, isGap, isDigits, isSpaces⟩
    simp only [List.append_assoc]
  · rintro ⟨indent, gap, digits, space, rfl, spaces, isGap, isDigits, isSpaces⟩
    refine ⟨space, ⟨indent, gap, digits, ?_, spaces, isGap, isDigits, isSpaces.stops_hex⟩, isSpaces⟩
    simp only [List.append_assoc]

theorem afterRecordPointer?_isSome_iff :
    (afterRecordPointer? line).isSome = true ↔ RecordLine line := by
  rw [Option.isSome_iff_exists]
  exact exists_congr fun rest => afterRecordPointer?_eq_some_iff

theorem lineRole_ne_content_iff : lineRole line ≠ .content ↔ ClosingLine line := by
  rw [ClosingLine, ← afterRecordPointer?_isSome_iff, ← startsWith_trimStart_iff (by decide),
    ← startsWith_trimStart_iff (by decide), lineRole]
  cases afterRecordPointer? line with
  | some rest =>
      dsimp only
      split
      · exact iff_of_true LineRole.noConfusion (Or.inl rfl)
      · exact iff_of_true LineRole.noConfusion (Or.inl rfl)
  | none =>
      dsimp only
      split
      · rename_i closes
        exact iff_of_true LineRole.noConfusion (Or.inr ((Bool.or_eq_true _ _).mp closes).symm)
      · rename_i goesOn
        refine iff_of_false (fun notContent => notContent rfl) ?_
        rintro (absent | closes)
        · exact Bool.false_ne_true absent
        · exact goesOn ((Bool.or_eq_true _ _).mpr closes.symm)

/-! ### The ends of lines -/

/-- A word that does not end in a line end keeps all that stands before it. -/
theorem dropLineEnd_word {front word : List Char}
    (ends : word.reverse ≠ [] ∧ Stops (fun c => c = '\n' || c = '\r') word.reverse) :
    dropLineEnd (front ++ word ++ rest) = front ++ word ++ dropLineEnd rest := by
  apply dropLineEnd_append_of_stops
  rw [List.reverse_append]
  exact stops_word ends

theorem PointerLine.append {tail : List Char} (pointer : PointerLine line rest) :
    PointerLine (line ++ tail) (rest ++ tail) := by
  obtain ⟨indent, gap, digits, space, rfl, parts⟩ := pointer
  exact ⟨indent, gap, digits, space, List.append_assoc .., parts⟩

theorem PointerLine.dropLineEnd (pointer : PointerLine line rest) :
    PointerLine (dropLineEnd line) (dropLineEnd rest) := by
  obtain ⟨indent, gap, digits, space, rfl, parts⟩ := pointer
  exact ⟨indent, gap, digits, space, dropLineEnd_word (by decide), parts⟩

theorem LedBy.append {word tail : List Char} (led : LedBy word line) : LedBy word (line ++ tail) := by
  obtain ⟨indent, rest, rfl, spaces⟩ := led
  exact ⟨indent, rest ++ tail, List.append_assoc .., spaces⟩

theorem LedBy.dropLineEnd {word : List Char}
    (ends : word.reverse ≠ [] ∧ Stops (fun c => c = '\n' || c = '\r') word.reverse)
    (led : LedBy word line) : LedBy word (dropLineEnd line) := by
  obtain ⟨indent, rest, rfl, spaces⟩ := led
  exact ⟨indent, Text.dropLineEnd rest, dropLineEnd_word ends, spaces⟩

theorem RecordLine.append {tail : List Char} (record : RecordLine line) :
    RecordLine (line ++ tail) := by
  obtain ⟨rest, pointer⟩ := record
  exact ⟨rest ++ tail, pointer.append⟩

theorem RecordLine.dropLineEnd (record : RecordLine line) : RecordLine (dropLineEnd line) := by
  obtain ⟨rest, pointer⟩ := record
  exact ⟨Text.dropLineEnd rest, pointer.dropLineEnd⟩

/-- A line closes a record by how it starts, so what stands at its end does not matter. -/
theorem ClosingLine.append {tail : List Char} (closing : ClosingLine line) :
    ClosingLine (line ++ tail) :=
  closing.imp RecordLine.append (Or.imp LedBy.append LedBy.append)

theorem ClosingLine.dropLineEnd (closing : ClosingLine line) : ClosingLine (dropLineEnd line) :=
  closing.imp RecordLine.dropLineEnd
    (Or.imp (LedBy.dropLineEnd (by decide)) (LedBy.dropLineEnd (by decide)))

theorem exists_append_lineOfPiece (piece : List Char) : ∃ tail, piece = lineOfPiece piece ++ tail := by
  unfold lineOfPiece
  split
  · rename_i rest reversed
    exact ⟨['\r', '\n'], by rw [← List.reverse_reverse piece, reversed]; simp⟩
  · rename_i rest _ reversed
    exact ⟨['\n'], by rw [← List.reverse_reverse piece, reversed]; simp⟩
  · exact ⟨[], (List.append_nil piece).symm⟩

theorem closesRecord_of_closingLine (opening : (lines more).head? = some line)
    (closing : ClosingLine line) : ClosesRecord more := by
  intro piece first
  rw [lines, List.head?_map, Option.mem_def.mp first, Option.map_some] at opening
  obtain ⟨tail, whole⟩ := exists_append_lineOfPiece piece
  rw [Option.some.inj opening] at whole
  rw [lineRole_ne_content_iff, whole]
  exact closing.append.dropLineEnd

end Dump

open DeadSymbols.Dump

/-! ### Appended dumps -/

theorem rawRecords_append {first second : List Char} (ended : first = [] ∨ Closed first)
    (closes : ClosesRecord second) :
    rawRecords (first ++ second) = rawRecords first ++ rawRecords second := by
  rcases ended with rfl | closed
  · rfl
  · exact rawRecords_join closed closes

/-- A dump that ends its last line, and a text behind it whose first line closes a record: the
records of both are those of the one and then those of the other. With a demangler that answers by
name the index of both is the merge of their indexes, whatever state each of them was built in, and
on a pool under every schedule. -/
theorem rawRecords_and_dumpIndex_append {first second line : List Char}
    (ended : first = [] ∨ Closed first) (opening : (lines second).head? = some line)
    (closing : ClosingLine line) :
    rawRecords (first ++ second) = rawRecords first ++ rawRecords second ∧
      ∀ {σ : Type} {demangler : Demangler σ} {answer : String → Option String},
        AnswersBy demangler answer → ∀ state firstState secondState,
          let merged := (dumpIndexWith demangler first firstState).1.merge
            (dumpIndexWith demangler second secondState).1
          (dumpIndexWith demangler (first ++ second) state).1 = merged ∧
            ∀ nativeSchedule bridgedSchedule,
              (dumpIndexPooled demangler nativeSchedule bridgedSchedule (first ++ second) state).1 =
                merged := by
  have records := rawRecords_append ended (closesRecord_of_closingLine opening closing)
  refine ⟨records, ?_⟩
  intro σ demangler answer answers state firstState secondState
  have joined : (Metadata.extract (first ++ second) []).index (naming answer) =
      (dumpIndexWith demangler first firstState).1.merge
        (dumpIndexWith demangler second secondState).1 := by
    rw [dumpIndexWith, dumpIndexWith, answers.indexWith, answers.indexWith, index_extract,
      index_extract, index_extract, records, merge_indexRecords]
  refine ⟨?_, ?_⟩
  · rw [dumpIndexWith, answers.indexWith, joined]
  · intro nativeSchedule bridgedSchedule
    rw [dumpIndexPooled, answers.indexPooled, joined]

/-- A native record that is open when its dump ends, and a bridged one behind the line that closes
it, which ends in a carriage return. Both implement the same selector. -/
theorem rawRecords_and_dumpIndex_append_open :
    let first := "data 0x1 (struct class_ro_t *)\n name 0x2 Runner\n name 0x3 run\n imp 0x4\n".toList
    let second := ("  baseProtocols 0x0\r\ndata 0x5 (struct class_ro_t *) Swift class\n" ++
      " name 0x6 Panel\n name 0x7 run\n").toList
    Closed first ∧ (lines second).head? = some "  baseProtocols 0x0".toList ∧
      ClosingLine "  baseProtocols 0x0".toList ∧
      rawRecords (first ++ second) = rawRecords first ++ rawRecords second ∧
      (rawRecords first).length = 1 ∧ (rawRecords second).length = 1 ∧
      (dumpIndexWith identity (first ++ second) ()).1 =
        (dumpIndexWith identity first ()).1.merge (dumpIndexWith identity second ()).1 := by
  intro first second
  have closed : Closed first := by decide
  have opening : (lines second).head? = some "  baseProtocols 0x0".toList := by decide
  have closing : ClosingLine "  baseProtocols 0x0".toList :=
    Or.inr (Or.inr ⟨"  ".toList, " 0x0".toList, by decide, by decide⟩)
  obtain ⟨records, indexes⟩ := rawRecords_and_dumpIndex_append (Or.inr closed) opening closing
  refine ⟨closed, opening, closing, records, by decide, by decide, ?_⟩
  exact (indexes identity_answersBy () () ()).1

end DeadSymbols
