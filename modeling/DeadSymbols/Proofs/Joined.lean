import DeadSymbols.Proofs.References

/-!
Contract: what the scanners make of two texts that are joined at a line end.

A word without newline that starts in a text stays in it, once the text ends in a newline. Lines,
records and marked texts of a joined text are therefore those of its parts. A section header is the
one thing that may run over a line end, inside the names between its parentheses. It cannot run
into a text that opens a parenthesis before it closes one, as every header does.

Owns: `Closed`, `Barrier`, and one law of joining for each scanner.
-/

namespace DeadSymbols

namespace Text

variable {word text more rest : List Char} {p : Char → Bool}

/-- A text that ends in a newline. -/
def Closed (text : List Char) : Prop := text.getLast? = some '\n'

instance (text : List Char) : Decidable (Closed text) :=
  inferInstanceAs (Decidable (text.getLast? = some '\n'))

theorem Closed.mem (closed : Closed text) : '\n' ∈ text := List.mem_of_getLast? closed

theorem Closed.ne_nil (closed : Closed text) : text ≠ [] := List.ne_nil_of_mem closed.mem

theorem Closed.of_append (closed : Closed (text ++ more)) (notEmpty : more ≠ []) : Closed more := by
  unfold Closed at closed ⊢
  rwa [List.getLast?_append_of_ne_nil text notEmpty] at closed

/-- What follows a word without newline is closed as well. -/
theorem Closed.after_word (closed : Closed (word ++ rest)) (single : '\n' ∉ word) : Closed rest := by
  apply closed.of_append
  intro empty
  rw [empty, List.append_nil] at closed
  exact single closed.mem

theorem Closed.tail {c : Char} (closed : Closed (c :: text)) (notEmpty : text ≠ []) :
    Closed text := by
  have whole : Closed ([c] ++ text) := closed
  exact whole.of_append notEmpty

/-- A closed text is its lines before the last newline, and this newline. -/
theorem Closed.exists_front (closed : Closed text) : ∃ front, text = front ++ ['\n'] :=
  List.getLast?_eq_some_iff.mp closed

/-! ### Words and runs -/

theorem after?_join (closed : Closed text) (single : '\n' ∉ word) :
    after? word (text ++ more) = (after? word text).map (· ++ more) := by
  cases found : after? word text with
  | some rest =>
      rw [after?_eq_some_iff.mp found, List.append_assoc, after?_append, Option.map_some]
  | none =>
      cases joined : after? word (text ++ more) with
      | none => rfl
      | some rest =>
          exfalso
          obtain ⟨front, rfl⟩ := closed.exists_front
          have whole : front ++ '\n' :: more = word ++ rest := by
            rw [← after?_eq_some_iff.mp joined, List.append_assoc]
            rfl
          obtain ⟨inside, rfl⟩ := exists_of_append_newline single whole
          rw [List.append_assoc, after?_append] at found
          exact Option.some_ne_none _ found

theorem dropWhile_join {c : Char} (member : c ∈ text) (outside : p c = false) :
    (text ++ more).dropWhile p = text.dropWhile p ++ more := by
  rw [List.dropWhile_append, if_neg]
  intro empty
  have all := List.dropWhile_eq_nil_iff.mp (List.isEmpty_iff.mp empty)
  rw [all c member] at outside
  exact Bool.noConfusion outside

theorem takeWhile_join {c : Char} (member : c ∈ text) (outside : p c = false) :
    (text ++ more).takeWhile p = text.takeWhile p := by
  have whole := List.takeWhile_append_dropWhile (p := p) (l := text ++ more)
  have part := List.takeWhile_append_dropWhile (p := p) (l := text)
  rw [dropWhile_join member outside, ← List.append_assoc] at whole
  exact List.append_cancel_right ((List.append_cancel_right whole).trans part.symm)

/-- A run that ends inside the first text. -/
theorem run?_join {c : Char} (member : c ∈ text) (outside : p c = false) :
    run? p (text ++ more) = (run? p text).map fun found => (found.1, found.2 ++ more) := by
  unfold run?
  rw [takeWhile_join member outside, dropWhile_join member outside]
  cases text.takeWhile p with
  | nil => rfl
  | cons d run => rfl

theorem Closed.dropWhile (closed : Closed text) (outside : p '\n' = false) :
    Closed (text.dropWhile p) := by
  have whole : Closed (text.takeWhile p ++ text.dropWhile p) := by
    rwa [List.takeWhile_append_dropWhile]
  apply whole.of_append
  intro empty
  rw [List.dropWhile_eq_nil_iff.mp empty '\n' closed.mem] at outside
  exact Bool.noConfusion outside

/-! ### Lines -/

theorem pieces_ne_nil (notEmpty : text ≠ []) : pieces text ≠ [] := by
  cases text with
  | nil => exact absurd rfl notEmpty
  | cons c rest =>
      rw [pieces]
      split
      · exact List.cons_ne_nil _ _
      · split
        · exact List.cons_ne_nil _ _
        · exact List.cons_ne_nil _ _

theorem pieces_join (closed : Closed text) : pieces (text ++ more) = pieces text ++ pieces more := by
  obtain ⟨front, rfl⟩ := closed.exists_front
  clear closed
  induction front with
  | nil => simp [pieces]
  | cons c front inductionHypothesis =>
      rw [List.cons_append, List.cons_append, pieces, pieces, inductionHypothesis]
      by_cases newline : c = '\n'
      · rw [if_pos newline, if_pos newline, List.cons_append]
      · rw [if_neg newline, if_neg newline]
        cases first : pieces (front ++ ['\n']) with
        | nil => exact absurd first (pieces_ne_nil (by simp))
        | cons piece others => rfl

/-- A word without newline stands whole in the first piece. -/
theorem pieces_word (single : '\n' ∉ word) (notEmpty : word ≠ []) :
    ∃ tail others, pieces (word ++ rest) = (word ++ tail) :: others := by
  induction word with
  | nil => exact absurd rfl notEmpty
  | cons c word inductionHypothesis =>
      obtain ⟨different, later⟩ := not_or.mp (mt List.mem_cons.mpr single)
      rw [List.cons_append, pieces, if_neg (Ne.symm different)]
      by_cases last : word = []
      · subst last
        cases pieces ([] ++ rest) with
        | nil => exact ⟨[], [], rfl⟩
        | cons piece others => exact ⟨piece, others, rfl⟩
      · obtain ⟨tail, others, cut⟩ := inductionHypothesis later last
        rw [cut]
        exact ⟨tail, others, rfl⟩

end Text

namespace Dump

open DeadSymbols.Text

variable {text more : List Char}

/-! ### Records -/

/-- A line that closes a record separates the records before it from those after it. -/
theorem recordsFrom_closing {current : Option OpenRecord} {before after : List (List Char)}
    {piece : List Char} (closes : lineRole (dropLineEnd piece) ≠ .content) :
    recordsFrom current (before ++ piece :: after) =
      recordsFrom current before ++ recordsFrom none (piece :: after) := by
  induction before generalizing current with
  | nil =>
      rw [List.nil_append, recordsFrom, recordsFrom, recordsFrom]
      cases role : lineRole (dropLineEnd piece) with
      | header flavor => rfl
      | terminator => rfl
      | content => exact absurd role closes
  | cons first before inductionHypothesis =>
      generalize recordsFrom none (piece :: after) = later at inductionHypothesis ⊢
      simp only [List.cons_append, recordsFrom, inductionHypothesis]
      cases lineRole (dropLineEnd first) with
      | header flavor => exact (List.append_assoc ..).symm
      | terminator => exact (List.append_assoc ..).symm
      | content => rfl

/-- A text that starts with a line that closes a record, or is empty. -/
def ClosesRecord (text : List Char) : Prop :=
  ∀ piece ∈ (pieces text).head?, lineRole (dropLineEnd piece) ≠ .content

theorem rawRecords_join (closed : Closed text) (closes : ClosesRecord more) :
    rawRecords (text ++ more) = rawRecords text ++ rawRecords more := by
  unfold rawRecords
  rw [pieces_join closed]
  cases following : pieces more with
  | nil => rw [List.append_nil, recordsFrom, Option.map_none, Option.toList_none, List.append_nil]
  | cons piece others =>
      apply recordsFrom_closing
      exact closes piece (by rw [following]; rfl)

/-! ### Selector references -/

theorem markedTexts_join (closed : Closed text) :
    markedTexts (text ++ more) = markedTexts text ++ markedTexts more := by
  have single : '\n' ∉ selectorMark := by decide
  induction length : text.length using Nat.strong_induction_on generalizing text with
  | _ length inductionHypothesis =>
    subst length
    cases text with
    | nil => exact absurd rfl closed.ne_nil
    | cons c tail =>
        cases found : after? selectorMark (c :: tail) with
        | some rest =>
            -- The marked text ends at a newline of the first text at the latest.
            have whole := after?_eq_some_iff.mp found
            rw [whole] at closed
            have restClosed := closed.after_word single
            have restShorter : (rest.dropWhile inLine).length < (c :: tail).length :=
              length_lt_of_marked found
            rw [whole, List.append_assoc, markedTexts_mark, markedTexts_mark,
              takeWhile_join restClosed.mem (by decide), dropWhile_join restClosed.mem (by decide),
              inductionHypothesis _ restShorter (restClosed.dropWhile (by decide)) rfl,
              List.cons_append]
        | none =>
            have joined : after? selectorMark (c :: (tail ++ more)) = none := by
              rw [← List.cons_append, after?_join closed single, found, Option.map_none]
            rw [List.cons_append, markedTexts_cons joined, markedTexts_cons found]
            by_cases last : tail = []
            · rw [last, List.nil_append, markedTexts_nil, List.nil_append]
            · exact inductionHypothesis tail.length (length_lt_cons c tail) (closed.tail last) rfl

/-! ### Section headers -/

theorem Header.Written.ne_nil {header : Header} (written : header.Written) : header.text ≠ [] := by
  obtain ⟨indent, tail, whole, _⟩ := written
  rw [whole]
  exact List.append_ne_nil_of_right_ne_nil indent (List.cons_ne_nil _ _)

/-- A header does not hold the newline that ends it. -/
theorem Header.Written.not_closed {header : Header} (written : header.Written) :
    ¬ Closed header.text := by
  intro closed
  obtain ⟨indent, tail, whole, _, _, _, single⟩ := written
  have closing : Closed (") section".toList ++ tail) := by
    rw [whole, ← List.append_assoc, ← List.append_assoc, ← List.append_assoc, ← List.append_assoc]
      at closed
    exact closed.of_append (List.append_ne_nil_of_left_ne_nil (by decide) tail)
  exact single (closing.after_word (by decide)).mem

theorem newline_not_mem_opening {indent : List Char} (indented : ∀ c ∈ indent, isIndent c = true) :
    '\n' ∉ indent ++ "Contents of (".toList := by
  intro member
  rcases List.mem_append.mp member with inIndent | inWord
  · exact absurd (indented _ inIndent) (by decide)
  · exact absurd inWord (by decide)

/-- The text ends or goes on with an opening parenthesis. -/
def Barred (rest : List Char) : Prop := ∀ c ∈ rest.head?, c = '('

/-- The text opens a parenthesis before it closes one or holds a comma, if it does any of these. -/
def Barrier (text : List Char) : Prop := Barred (text.dropWhile isNameChar)

/-- A class without comma and parentheses has only characters of names. -/
theorem isNameChar_of_class {p : Char → Bool} {c : Char} (member : p c = true)
    (outside : [',', '(', ')'].all (!p ·) = true) : isNameChar c = true := by
  simp only [List.all_cons, List.all_nil, Bool.and_true, Bool.and_eq_true, Bool.not_eq_true'] at outside
  obtain ⟨comma, opening, closing⟩ := outside
  have different {d : Char} (notInClass : p d = false) : c ≠ d := by
    rintro rfl
    exact Bool.false_ne_true (notInClass.symm.trans member)
  simp [isNameChar, different comma, different opening, different closing]

theorem barrier_of_opening {front rest : List Char} (names : ∀ c ∈ front, isNameChar c = true) :
    Barrier (front ++ '(' :: rest) := by
  rw [Barrier, dropWhile_append_stops names (stops_cons.mpr (by decide))]
  intro c member
  exact (Option.mem_some_iff.mp member).symm

/-- No name of a header before a text can run over the header that starts the text. -/
theorem barrier_of_header {header : Header} {rest : List Char}
    (found : header? text = some (header, rest)) : Barrier (text ++ more) := by
  obtain ⟨rfl, ⟨indent, tail, written, indented, _⟩, _⟩ := header?_eq_some_iff.mp found
  have opening : "Contents of (".toList = "Contents of ".toList ++ ['('] := by decide
  have names : ∀ c ∈ indent ++ "Contents of ".toList, isNameChar c = true := by
    intro c member
    rcases List.mem_append.mp member with inIndent | inWord
    · exact isNameChar_of_class (indented c inIndent) (by decide)
    · have allNames : "Contents of ".toList.all isNameChar = true := by decide
      exact List.all_eq_true.mp allNames c inWord
  rw [written, opening]
  simp only [List.append_assoc]
  rw [← List.append_assoc indent]
  exact barrier_of_opening names

/-- A name of a header, and the text after the word that follows the name. -/
def nameField? (word text : List Char) : Option (List Char × List Char) :=
  (run? isNameChar text).bind fun found => (after? word found.2).map fun rest => (found.1, rest)

/-- A header is two such fields behind its opening words. -/
theorem header?_eq_fields (text : List Char) :
    header? text =
      (after? "Contents of (".toList (text.dropWhile isIndent)).bind fun opened =>
        (nameField? ",".toList opened).bind fun segment =>
          (nameField? ") section".toList segment.2).map fun name =>
            ({ text := text.takeWhile isIndent ++ "Contents of (".toList ++ segment.1 ++
                 ",".toList ++ name.1 ++ ") section".toList ++ name.2.takeWhile (· ≠ '\n')
               segment := segment.1, name := name.1 }, name.2.dropWhile (· ≠ '\n')) := by
  unfold header? nameField?
  cases after? "Contents of (".toList (text.dropWhile isIndent) with
  | none => rfl
  | some opened =>
      simp only [bind, Option.bind_some]
      cases run? isNameChar opened with
      | none => rfl
      | some segment =>
          simp only [Option.bind_some]
          cases after? ",".toList segment.2 with
          | none => rfl
          | some named =>
              simp only [Option.bind_some, Option.map_some]
              cases run? isNameChar named with
              | none => rfl
              | some name =>
                  simp only [Option.bind_some]
                  cases after? ") section".toList name.2 with
                  | none => rfl
                  | some tail => rfl

section Fields

variable {word : List Char}

theorem closed_nameField {field : List Char × List Char} (closed : Closed text)
    (found : nameField? word text = some field) (single : '\n' ∉ word) (notEmpty : word ≠ []) :
    Closed field.2 := by
  obtain ⟨⟨name, after⟩, taken, followed⟩ := Option.bind_eq_some_iff.mp found
  obtain ⟨rest, matched, rfl⟩ := Option.map_eq_some_iff.mp followed
  obtain ⟨rfl, _, _⟩ := run?_eq_some_iff.mp taken
  obtain rfl := after?_eq_some_iff.mp matched
  have afterName : Closed (word ++ rest) :=
    closed.of_append (List.append_ne_nil_of_left_ne_nil notEmpty rest)
  exact afterName.after_word single

/-- A word that does not start with an opening parenthesis does not stand at a barrier. -/
theorem after?_barred {rest : List Char} (leads : word.head?.any (· ≠ '(') = true)
    (barred : Barred rest) : after? word rest = none := by
  cases word with
  | nil => exact absurd leads Bool.false_ne_true
  | cons c word =>
      cases rest with
      | nil => rfl
      | cons d rest =>
          have different : c ≠ '(' := of_decide_eq_true leads
          rw [after?, barred d rfl, if_neg different]

/-- A field is the same with a barrier behind the text: either its name ends inside the text, or it
runs up to the barrier, where the word after the name does not stand. -/
theorem nameField?_join (closed : Closed text) (barrier : Barrier more) (single : '\n' ∉ word)
    (leads : word.head?.any (· ≠ '(') = true) :
    nameField? word (text ++ more) =
      (nameField? word text).map fun field => (field.1, field.2 ++ more) := by
  cases inside : text.all isNameChar with
  | false =>
      obtain ⟨c, member, outside⟩ := List.all_eq_false.mp inside
      rw [Bool.not_eq_true] at outside
      unfold nameField?
      rw [run?_join member outside]
      cases taken : run? isNameChar text with
      | none => rfl
      | some field =>
          obtain ⟨whole, isRun, _⟩ := run?_eq_some_iff.mp taken
          have afterClosed : Closed field.2 := by
            rw [whole] at closed member
            apply closed.of_append
            intro empty
            rw [empty, List.append_nil] at member
            rw [isRun.2 c member] at outside
            exact Bool.noConfusion outside
          simp only [Option.map_some, Option.bind_some]
          rw [after?_join afterClosed single]
          cases after? word field.2 with
          | none => rfl
          | some rest => rfl
  | true =>
      have allNames : ∀ c ∈ text, isNameChar c = true := List.all_eq_true.mp inside
      have taken : run? isNameChar text = some (text, []) := by
        rw [run?_eq_some_iff]
        exact ⟨(List.append_nil text).symm, ⟨closed.ne_nil, allNames⟩, stops_nil⟩
      have takenJoined : run? isNameChar (text ++ more) =
          some (text ++ more.takeWhile isNameChar, more.dropWhile isNameChar) := by
        rw [run?_eq_some_iff]
        refine ⟨?_, ⟨List.append_ne_nil_of_left_ne_nil closed.ne_nil _, ?_⟩, stops_dropWhile⟩
        · rw [List.append_assoc, List.takeWhile_append_dropWhile]
        · intro c member
          rcases List.mem_append.mp member with inText | inMore
          · exact allNames c inText
          · exact List.mem_takeWhile_imp inMore
      have nothing : Barred [] := fun c member => absurd member (Option.not_mem_none c)
      rw [nameField?, nameField?, taken, takenJoined, Option.bind_some, Option.bind_some,
        after?_barred leads barrier, after?_barred leads nothing]
      rfl

end Fields

/-- Joining neither makes a header nor takes one away. -/
theorem header?_join (closed : Closed text) (barrier : Barrier more) :
    header? (text ++ more) = (header? text).map fun found => (found.1, found.2 ++ more) := by
  rw [header?_eq_fields, header?_eq_fields, dropWhile_join closed.mem (by decide),
    takeWhile_join closed.mem (by decide), after?_join (closed.dropWhile (by decide)) (by decide)]
  cases opening : after? "Contents of (".toList (text.dropWhile isIndent) with
  | none => rfl
  | some opened =>
      have openedClosed : Closed opened := by
        have indented : Closed (text.dropWhile isIndent) := closed.dropWhile (by decide)
        rw [after?_eq_some_iff.mp opening] at indented
        exact indented.after_word (by decide)
      simp only [Option.map_some, Option.bind_some]
      rw [nameField?_join openedClosed barrier (by decide) (by decide)]
      cases segmentFound : nameField? ",".toList opened with
      | none => rfl
      | some segment =>
          have namedClosed := closed_nameField openedClosed segmentFound (by decide) (by decide)
          simp only [Option.map_some, Option.bind_some]
          rw [nameField?_join namedClosed barrier (by decide) (by decide)]
          cases nameFound : nameField? ") section".toList segment.2 with
          | none => rfl
          | some name =>
              have tailClosed := closed_nameField namedClosed nameFound (by decide) (by decide)
              simp only [Option.map_some]
              rw [takeWhile_join tailClosed.mem (by decide), dropWhile_join tailClosed.mem (by decide)]

theorem closed_header_rest {header : Header} {rest : List Char} (closed : Closed text)
    (found : header? text = some (header, rest)) : Closed rest := by
  obtain ⟨rfl, written, _⟩ := header?_eq_some_iff.mp found
  apply closed.of_append
  rintro rfl
  rw [List.append_nil] at closed
  exact written.not_closed closed

/-- The blocks of a joined text are those of its parts, when the second one starts with a header. -/
theorem cut_join {lineStart : Bool} (closed : Closed text) (barrier : Barrier more)
    (opens : (cut true more).1 = []) :
    cut lineStart (text ++ more) =
      ((cut lineStart text).1, (cut lineStart text).2 ++ (cut true more).2) := by
  induction length : text.length using Nat.strong_induction_on generalizing text lineStart with
  | _ length inductionHypothesis =>
    subst length
    cases text with
    | nil => exact absurd rfl closed.ne_nil
    | cons c tail =>
        cases found : headerAt? lineStart (c :: tail) with
        | some result =>
            cases lineStart with
            | false => exact absurd found.symm (Option.some_ne_none result)
            | true =>
                obtain ⟨header, rest⟩ := result
                have isHeader : header? (c :: tail) = some (header, rest) := found
                have joined : header? (c :: tail ++ more) = some (header, rest ++ more) := by
                  rw [header?_join closed barrier, isHeader, Option.map_some]
                rw [cut_header joined, cut_header isHeader,
                  inductionHypothesis rest.length (header?_length isHeader)
                    (closed_header_rest closed isHeader) rfl, List.cons_append]
        | none =>
            have joined : headerAt? lineStart (c :: (tail ++ more)) = none := by
              cases lineStart with
              | false => rfl
              | true =>
                  have absent : header? (c :: tail) = none := found
                  have whole := header?_join closed barrier
                  rw [absent, Option.map_none] at whole
                  exact whole
            rw [List.cons_append, cut_cons joined, cut_cons found]
            by_cases last : tail = []
            · subst last
              have newline : c = '\n' := Option.some.inj closed
              rw [List.nil_append, newline, decide_eq_true rfl, opens, cut_nil, List.nil_append]
            · rw [inductionHypothesis tail.length (length_lt_cons c tail) (closed.tail last) rfl]

/-- The first line of a header closes a record, whatever its names are. -/
theorem lineRole_contents {indent rest : List Char} (spaces : Spaces indent) :
    lineRole (indent ++ ("Contents of".toList ++ rest)) = .terminator := by
  have trimmed : trimStart (indent ++ ("Contents of".toList ++ rest)) =
      "Contents of".toList ++ rest :=
    trimStart_append spaces (stops_word (by decide))
  have noData : after? "data".toList ("Contents of".toList ++ rest) = none :=
    after?_eq_none (startsWith_eq_false_of_clash (by decide))
  have noPointer : afterRecordPointer? (indent ++ ("Contents of".toList ++ rest)) = none := by
    rw [afterRecordPointer?, trimmed, noData]
    rfl
  have starts : startsWith "Contents of".toList ("Contents of".toList ++ rest) = true :=
    startsWith_iff.mpr ⟨rest, rfl⟩
  rw [lineRole, noPointer, trimmed]
  dsimp only
  rw [starts, Bool.or_true, if_pos rfl]

/-- The first line of a header, with the lines behind it. -/
theorem Header.Written.firstLine {header : Header} {after : List Char} (written : header.Written) :
    ∃ indent tail others,
      pieces (header.text ++ after) = (indent ++ ("Contents of".toList ++ tail)) :: others ∧
        ∀ c ∈ indent, isIndent c = true := by
  obtain ⟨indent, tail, whole, indented, _⟩ := written
  rw [whole, ← List.append_assoc, List.append_assoc _ _ after]
  obtain ⟨tail, others, cut⟩ := pieces_word (newline_not_mem_opening indented)
    (List.append_ne_nil_of_right_ne_nil indent (by decide))
  refine ⟨indent, " (".toList ++ tail, others, ?_, indented⟩
  rw [cut, List.append_assoc]
  rfl

/-- A text that starts with a header closes the record that is open before it. -/
theorem closesRecord_of_header {header : Header} {rest : List Char}
    (found : header? text = some (header, rest)) : ClosesRecord (text ++ more) := by
  obtain ⟨rfl, written, _⟩ := header?_eq_some_iff.mp found
  rw [List.append_assoc]
  obtain ⟨indent, tail, others, cut, indented⟩ := written.firstLine
  have spaces : Spaces indent := fun c member => isSpace_of_isIndent (indented c member)
  have single : SingleLine (indent ++ "Contents of".toList) := by
    refine SingleLine.append ⟨?_, ?_⟩ (by decide)
    · exact fun member => absurd (indented _ member) (by decide)
    · exact fun member => absurd (indented _ member) (by decide)
  intro piece first
  rw [cut] at first
  rw [← Option.mem_some_iff.mp first, ← List.append_assoc, dropLineEnd_append single,
    List.append_assoc, lineRole_contents spaces]
  exact LineRole.noConfusion

end Dump

end DeadSymbols
