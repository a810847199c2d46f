import DeadSymbols.Dump.Reference
import DeadSymbols.Proofs.Scan

/-!
Contract: texts that are written line by line, and how they are cut again.

`unlines` ends every line with a newline. Cutting such a text gives the lines back, in both views
of a text: as pieces with their newline, and as lines without it. Cutting at section headers takes
the text line by line as well: a line that does not start with `Contents of` belongs to the text
before it, and a written header opens a block whose body starts with the header's own newline.

Owns: `unlines`, the laws of `pieces`, `lines` and `dropLineEnd` on it, the written form of a header,
and one step of `cut` per kind of line.
-/

namespace DeadSymbols

namespace Text

variable {line rest : List Char} {texts : List (List Char)}

/-- A text without line ends. -/
def SingleLine (line : List Char) : Prop := '\n' ∉ line ∧ '\r' ∉ line

instance (line : List Char) : Decidable (SingleLine line) :=
  inferInstanceAs (Decidable ('\n' ∉ line ∧ '\r' ∉ line))

theorem SingleLine.append (first : SingleLine line) (second : SingleLine rest) :
    SingleLine (line ++ rest) := by
  refine ⟨?_, ?_⟩
  · intro member
    exact (List.mem_append.mp member).elim first.1 second.1
  · intro member
    exact (List.mem_append.mp member).elim first.2 second.2

/-- A word stays on its line. -/
theorem Run.single (isWord : Run isWordChar line) : SingleLine line :=
  ⟨fun member => absurd (isWord.2 _ member) (by decide),
    fun member => absurd (isWord.2 _ member) (by decide)⟩

/-- The text with the given lines, each ended by a newline. -/
def unlines (texts : List (List Char)) : List Char := texts.flatMap (· ++ ['\n'])

@[simp] theorem unlines_nil : unlines [] = [] := rfl

@[simp] theorem unlines_cons : unlines (line :: texts) = line ++ '\n' :: unlines texts := by
  simp [unlines]

@[simp] theorem unlines_append {more : List (List Char)} :
    unlines (texts ++ more) = unlines texts ++ unlines more := by
  simp [unlines]

/-! ### Pieces and lines -/

theorem pieces_line (single : '\n' ∉ line) :
    pieces (line ++ '\n' :: rest) = (line ++ ['\n']) :: pieces rest := by
  induction line with
  | nil => simp [pieces]
  | cons c line inductionHypothesis =>
      have notNewline : c ≠ '\n' := by
        intro same
        exact single (same ▸ List.mem_cons_self)
      have later := inductionHypothesis fun member => single (List.mem_cons_of_mem c member)
      rw [List.cons_append, pieces, if_neg notNewline, later, List.cons_append]

theorem pieces_unlines (single : ∀ line ∈ texts, '\n' ∉ line) :
    pieces (unlines texts) = texts.map (· ++ ['\n']) := by
  induction texts with
  | nil => rfl
  | cons line texts inductionHypothesis =>
      obtain ⟨here, later⟩ := List.forall_mem_cons.mp single
      rw [unlines_cons, pieces_line here, inductionHypothesis later, List.map_cons]

/-- A text that is written line by line determines its lines, as long as none holds a newline. -/
theorem unlines_inj {others : List (List Char)} (single : ∀ line ∈ texts, '\n' ∉ line)
    (otherSingle : ∀ line ∈ others, '\n' ∉ line) (same : unlines texts = unlines others) :
    texts = others := by
  have cut : texts.map (· ++ ['\n']) = others.map (· ++ ['\n']) := by
    rw [← pieces_unlines single, same, pieces_unlines otherSingle]
  exact (List.map_inj_right fun _ _ ended => List.append_cancel_right ended).mp cut

theorem lineOfPiece_line (single : SingleLine line) : lineOfPiece (line ++ ['\n']) = line := by
  have ending : (line ++ ['\n']).reverse = '\n' :: line.reverse := List.reverse_concat
  unfold lineOfPiece
  rw [ending]
  cases reversed : line.reverse with
  | nil => rw [List.reverse_eq_nil_iff.mp reversed]; rfl
  | cons c before =>
      have notReturn : c ≠ '\r' := by
        intro same
        have member : c ∈ line := List.mem_reverse.mp (reversed ▸ List.mem_cons_self)
        exact single.2 (same ▸ member)
      have whole : (c :: before).reverse = line := by rw [← reversed, List.reverse_reverse]
      split
      · rename_i head
        exact absurd (List.cons.inj (List.cons.inj head).2).1 notReturn
      · rename_i head
        rw [← (List.cons.inj head).2]
        exact whole
      · rename_i _ notNewline
        exact absurd rfl (notNewline _)

theorem lines_unlines (single : ∀ line ∈ texts, SingleLine line) :
    lines (unlines texts) = texts := by
  have same : texts.map (lineOfPiece ∘ (· ++ ['\n'])) = texts.map id :=
    List.map_congr_left fun line member => lineOfPiece_line (single line member)
  rw [lines, pieces_unlines fun line member => (single line member).1, List.map_map, same,
    List.map_id]

/-- Dropping the line end leaves a text in front as it is, when that does not end in one itself. -/
theorem dropLineEnd_append_of_stops
    (stops : Stops (fun c => c = '\n' || c = '\r') line.reverse) :
    dropLineEnd (line ++ rest) = line ++ dropLineEnd rest := by
  unfold dropLineEnd
  rw [List.reverse_append, List.dropWhile_append]
  split
  · rename_i empty
    rw [dropWhile_of_stops stops, List.isEmpty_iff.mp empty, List.reverse_reverse, List.reverse_nil,
      List.append_nil]
  · rw [List.reverse_append, List.reverse_reverse]

theorem dropLineEnd_append (single : SingleLine line) :
    dropLineEnd (line ++ rest) = line ++ dropLineEnd rest := by
  apply dropLineEnd_append_of_stops
  intro c member
  have within : c ∈ line := List.mem_reverse.mp (List.mem_of_mem_head? member)
  have notNewline : c ≠ '\n' := fun same => single.1 (same ▸ within)
  have notReturn : c ≠ '\r' := fun same => single.2 (same ▸ within)
  simp [notNewline, notReturn]

theorem dropLineEnd_line (single : SingleLine line) : dropLineEnd (line ++ ['\n']) = line := by
  rw [dropLineEnd_append single]
  exact List.append_nil line

/-- A word without newline that starts a line and what follows it starts the line already. -/
theorem exists_of_append_newline {word body after : List Char} (single : '\n' ∉ word)
    (same : body ++ '\n' :: rest = word ++ after) : ∃ more, body = word ++ more := by
  rcases List.append_eq_append_iff.mp same with ⟨extra, wordEq, tailEq⟩ | ⟨extra, bodyEq, _⟩
  · cases extra with
    | nil => exact ⟨[], by simpa using wordEq.symm⟩
    | cons c extra =>
        obtain ⟨rfl, _⟩ := List.cons.inj tailEq
        exact absurd (by simp [wordEq]) single
  · exact ⟨extra, bodyEq⟩

end Text

/-! ### Sections -/

namespace Dump

open DeadSymbols.Text

variable {line rest : List Char}

/-- A line that does not start with `Contents of` after white space. -/
def NoSection (line : List Char) : Prop :=
  startsWith "Contents of".toList (trimStart line) = false

instance (line : List Char) : Decidable (NoSection line) :=
  inferInstanceAs (Decidable (startsWith "Contents of".toList (trimStart line) = false))

theorem isSpace_of_isIndent {c : Char} (indent : isIndent c = true) : isSpace c = true := by
  rw [isIndent, Bool.or_eq_true, decide_eq_true_iff, decide_eq_true_iff] at indent
  rcases indent with rfl | rfl
  · decide
  · decide

theorem header?_eq_none (noSection : NoSection line) :
    header? (line ++ '\n' :: rest) = none := by
  cases found : header? (line ++ '\n' :: rest) with
  | none => rfl
  | some result =>
      exfalso
      obtain ⟨opened, matched, _⟩ := Option.bind_eq_some_iff.mp found
      have opening := after?_eq_some_iff.mp matched
      -- The indentation of the header is the indentation of the line.
      have split : line = line.takeWhile isIndent ++ line.dropWhile isIndent :=
        List.takeWhile_append_dropWhile.symm
      have indented : ∀ c ∈ line.takeWhile isIndent, isIndent c = true :=
        fun c member => List.mem_takeWhile_imp member
      generalize line.takeWhile isIndent = indent at split indented
      have stops : Stops isIndent (line.dropWhile isIndent ++ '\n' :: rest) := by
        cases body : line.dropWhile isIndent with
        | nil => exact stops_cons.mpr (by decide)
        | cons c more =>
            have atBody : Stops isIndent (c :: more) := body ▸ stops_dropWhile
            exact stops_cons.mpr (stops_cons.mp atBody)
      generalize line.dropWhile isIndent = body at split stops
      rw [split, List.append_assoc, dropWhile_append_stops indented stops] at opening
      have word : "Contents of (".toList = "Contents of".toList ++ " (".toList := by decide
      rw [word, List.append_assoc] at opening
      obtain ⟨more, rfl⟩ := exists_of_append_newline (by decide) opening
      have spaces : Spaces indent := fun c member => isSpace_of_isIndent (indented c member)
      have trimmed : trimStart line = "Contents of".toList ++ more := by
        rw [split]
        exact trimStart_append spaces (stops_word (by decide))
      have starts : startsWith "Contents of".toList (trimStart line) = true :=
        startsWith_iff.mpr ⟨more, trimmed⟩
      rw [NoSection, starts] at noSection
      exact Bool.noConfusion noSection

/-! ### Headers -/

/-- The text of a header is put together from its names. -/
def Header.Written (header : Header) : Prop :=
  ∃ indent tail,
    header.text = indent ++ ("Contents of (".toList ++ (header.segment ++ (",".toList ++
        (header.name ++ (") section".toList ++ tail))))) ∧
      (∀ c ∈ indent, isIndent c = true) ∧ Run isNameChar header.segment ∧
      Run isNameChar header.name ∧ '\n' ∉ tail

/-- A text that ends or goes on with a newline. -/
def EndsLine (after : List Char) : Prop := Stops (fun c => decide (c ≠ '\n')) after

/-- The reader finds a header exactly where one is written up to a line end. -/
theorem header?_eq_some_iff {text : List Char} {header : Header} :
    header? text = some (header, rest) ↔
      text = header.text ++ rest ∧ header.Written ∧ EndsLine rest := by
  constructor
  · intro found
    simp only [header?, bind, Option.bind_eq_some_iff, Prod.exists, pure, Option.some.injEq,
      Prod.mk.injEq] at found
    obtain ⟨opened, matchedOpen, segment, afterSegment, matchedSegment, named, matchedComma, name,
      afterName, matchedName, tail, matchedTail, rfl, rfl⟩ := found
    obtain ⟨rfl, isSegment, _⟩ := run?_eq_some_iff.mp matchedSegment
    obtain rfl := after?_eq_some_iff.mp matchedComma
    obtain ⟨rfl, isName, _⟩ := run?_eq_some_iff.mp matchedName
    obtain rfl := after?_eq_some_iff.mp matchedTail
    have opening := after?_eq_some_iff.mp matchedOpen
    refine ⟨?_, ⟨text.takeWhile isIndent, tail.takeWhile (· ≠ '\n'), ?_, ?_, isSegment, isName, ?_⟩,
      stops_dropWhile⟩
    · have whole := List.takeWhile_append_dropWhile (p := isIndent) (l := text)
      rw [opening] at whole
      simp only [List.append_assoc, List.takeWhile_append_dropWhile, whole]
    · simp only [List.append_assoc]
    · exact fun c member => List.mem_takeWhile_imp member
    · intro member
      simpa using List.mem_takeWhile_imp member
  · rintro ⟨rfl, ⟨indent, tail, written, indented, isSegment, isName, single⟩, ends⟩
    obtain ⟨headerText, segment, name⟩ := header
    dsimp only at written isSegment isName ⊢
    subst written
    have opens : Stops isIndent ("Contents of (".toList ++ (segment ++ (",".toList ++ (name ++
        (") section".toList ++ (tail ++ rest)))))) := stops_word (by decide)
    have comma : Stops isNameChar (",".toList ++ (name ++ (") section".toList ++ (tail ++ rest)))) :=
      stops_word (by decide)
    have closing : Stops isNameChar (") section".toList ++ (tail ++ rest)) := stops_word (by decide)
    have inTail : ∀ c ∈ tail, decide (c ≠ '\n') = true := by
      intro c member
      exact decide_eq_true fun newline => single (newline ▸ member)
    unfold header?
    simp only [List.append_assoc, takeWhile_append_stops indented opens,
      dropWhile_append_stops indented opens, after?_append, bind, Option.bind_some,
      run?_append isSegment comma, run?_append isName closing, takeWhile_append_stops inTail ends,
      dropWhile_append_stops inTail ends]
    rfl

/-- A header as it is written. -/
def headerLine (segment name : List Char) : List Char :=
  "Contents of (".toList ++ segment ++ ",".toList ++ name ++ ") section".toList

theorem header?_headerLine {segment name : List Char} (isSegment : Run isNameChar segment)
    (isName : Run isNameChar name) :
    header? (headerLine segment name ++ '\n' :: rest) =
      some ({ text := headerLine segment name, segment, name }, '\n' :: rest) := by
  have shape (opening comma closing : List Char) :
      opening ++ segment ++ comma ++ name ++ closing =
        [] ++ (opening ++ (segment ++ (comma ++ (name ++ (closing ++ []))))) := by
    simp
  have written : Header.Written { text := headerLine segment name, segment, name } :=
    ⟨[], [], shape _ _ _, List.forall_mem_nil _, isSegment, isName, List.not_mem_nil⟩
  have ends : EndsLine ('\n' :: rest) := stops_cons.mpr (decide_eq_false (not_not_intro rfl))
  exact header?_eq_some_iff.mpr ⟨rfl, written, ends⟩

/-! ### Cutting at headers, line by line -/

theorem cut_nil {lineStart : Bool} : cut lineStart [] = ([], []) := by
  rw [cut]

theorem cut_cons {lineStart : Bool} {c : Char} (noHeader : headerAt? lineStart (c :: rest) = none) :
    cut lineStart (c :: rest) =
      (c :: (cut (c = '\n') rest).1, (cut (c = '\n') rest).2) := by
  rw [cut.eq_def]
  split
  · rename_i empty
    exact absurd empty (List.cons_ne_nil c rest)
  · rename_i d more same
    obtain ⟨rfl, rfl⟩ := List.cons.inj same
    split
    · rename_i found
      exact absurd (found.symm.trans noHeader) (Option.some_ne_none _)
    · rfl

theorem cut_header {text : List Char} {header : Header}
    (isHeader : header? text = some (header, rest)) :
    cut true text = ([], { header, body := (cut false rest).1 } :: (cut false rest).2) := by
  rw [cut.eq_def]
  split
  · exact absurd (header?_length isHeader) (Nat.not_lt_zero _)
  · split
    · rename_i found
      obtain ⟨rfl, rfl⟩ := Prod.mk.inj (Option.some.inj (found.symm.trans isHeader))
      rfl
    · rename_i found
      exact absurd (isHeader.symm.trans found) (Option.some_ne_none _)

/-- Inside a line no header starts. -/
theorem cut_inLine (single : '\n' ∉ line) :
    cut false (line ++ '\n' :: rest) =
      (line ++ '\n' :: (cut true rest).1, (cut true rest).2) := by
  induction line with
  | nil => exact cut_cons rfl
  | cons c line inductionHypothesis =>
      have notNewline : c ≠ '\n' := fun same => single (same ▸ List.mem_cons_self)
      have later := inductionHypothesis fun member => single (List.mem_cons_of_mem c member)
      rw [List.cons_append, cut_cons rfl, decide_eq_false notNewline, later, List.cons_append]

/-- A line without header belongs to the text before the next header. -/
theorem cut_line (single : '\n' ∉ line) (noSection : NoSection line) :
    cut true (line ++ '\n' :: rest) =
      (line ++ '\n' :: (cut true rest).1, (cut true rest).2) := by
  have noHeader : headerAt? true (line ++ '\n' :: rest) = none := header?_eq_none noSection
  cases line with
  | nil => exact cut_cons noHeader
  | cons c line =>
      have notNewline : c ≠ '\n' := fun same => single (same ▸ List.mem_cons_self)
      have later : '\n' ∉ line := fun member => single (List.mem_cons_of_mem c member)
      rw [List.cons_append] at noHeader ⊢
      rw [cut_cons noHeader, decide_eq_false notNewline, cut_inLine later, List.cons_append]

theorem cut_lines {texts : List (List Char)} (single : ∀ line ∈ texts, SingleLine line)
    (noSection : ∀ line ∈ texts, NoSection line) :
    cut true (unlines texts ++ rest) = (unlines texts ++ (cut true rest).1, (cut true rest).2) := by
  induction texts with
  | nil => rfl
  | cons line texts inductionHypothesis =>
      obtain ⟨here, later⟩ := List.forall_mem_cons.mp single
      obtain ⟨noHeader, laterNone⟩ := List.forall_mem_cons.mp noSection
      rw [unlines_cons, List.append_assoc, List.cons_append, cut_line here.1 noHeader,
        inductionHypothesis later laterNone, List.append_assoc, List.cons_append]

/-- A written header opens a block. -/
theorem cut_headerLine {segment name : List Char} (isSegment : Run isNameChar segment)
    (isName : Run isNameChar name) :
    cut true (headerLine segment name ++ '\n' :: rest) =
      ([], { header := { text := headerLine segment name, segment, name },
             body := '\n' :: (cut true rest).1 } :: (cut true rest).2) := by
  have empty : '\n' ∉ ([] : List Char) := List.not_mem_nil
  have bodyCut : cut false ('\n' :: rest) = ('\n' :: (cut true rest).1, (cut true rest).2) :=
    cut_inLine empty
  rw [cut_header (header?_headerLine isSegment isName), bodyCut]

end Dump

end DeadSymbols
