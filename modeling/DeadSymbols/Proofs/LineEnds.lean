import DeadSymbols.Proofs.Joined
import DeadSymbols.Proofs.Resolution

/-!
Contract: a carriage return before a newline changes nothing in an analysis.

`Returned text other` says that the second text is the first one with a carriage return put before
some of its newlines. Every scanner takes such a pair of texts to a pair of results that differ in
the same way only. A name on a line, a selector and a section name hold no line end, so these are
equal, and nothing else of a dump enters the result.

Owns: `withReturns`, `Returned`, and one law for each scanner.
-/

namespace DeadSymbols

namespace Text

variable {text other word : List Char} {p : Char → Bool}

/-- The text with a carriage return before every newline. -/
def withReturns (text : List Char) : List Char :=
  text.flatMap fun c => if c = '\n' then ['\r', '\n'] else [c]

/-- The second text is the first one, which holds no carriage return, with one before some of its
newlines. -/
inductive Returned : List Char → List Char → Prop
  | nil : Returned [] []
  | char {c : Char} {text other : List Char} (notReturn : c ≠ '\r')
      (later : Returned text other) : Returned (c :: text) (c :: other)
  | lineEnd {text other : List Char} (later : Returned text other) :
      Returned ('\n' :: text) ('\r' :: '\n' :: other)

theorem returned_withReturns (noReturn : '\r' ∉ text) : Returned text (withReturns text) := by
  induction text with
  | nil => exact .nil
  | cons c text inductionHypothesis =>
      obtain ⟨different, later⟩ := not_or.mp (mt List.mem_cons.mpr noReturn)
      rw [withReturns, List.flatMap_cons]
      by_cases newline : c = '\n'
      · rw [if_pos newline, newline]
        exact .lineEnd (inductionHypothesis later)
      · rw [if_neg newline]
        exact .char (Ne.symm different) (inductionHypothesis later)

namespace Returned

theorem append {more otherMore : List Char} (first : Returned text other)
    (second : Returned more otherMore) : Returned (text ++ more) (other ++ otherMore) := by
  induction first with
  | nil => exact second
  | char notReturn _ inductionHypothesis => exact .char notReturn inductionHypothesis
  | lineEnd _ inductionHypothesis => exact .lineEnd inductionHypothesis

theorem newline_mem_iff (returned : Returned text other) : '\n' ∈ other ↔ '\n' ∈ text := by
  induction returned with
  | nil => exact Iff.rfl
  | char _ _ inductionHypothesis => rw [List.mem_cons, List.mem_cons, inductionHypothesis]
  | lineEnd _ _ => simp

/-- Inside a line the two texts are equal. -/
theorem eq_of_single (returned : Returned text other) (single : '\n' ∉ text) : other = text := by
  induction returned with
  | nil => rfl
  | char _ _ inductionHypothesis =>
      rw [inductionHypothesis fun member => single (List.mem_cons_of_mem _ member)]
  | lineEnd _ _ => exact absurd List.mem_cons_self single

/-- Both texts are the given word, or none of them is. -/
theorem beq_single (returned : Returned text other) (single : '\n' ∉ word) :
    (other == word) = (text == word) := by
  rw [Bool.eq_iff_iff, beq_iff_eq, beq_iff_eq]
  constructor
  · intro same
    have inLine : '\n' ∉ text := by rwa [← returned.newline_mem_iff, same]
    rw [← returned.eq_of_single inLine, same]
  · intro same
    rw [returned.eq_of_single (same ▸ single), same]

end Returned

/-! ### Runs and words -/

theorem takeWhile_returned (returned : Returned text other) (alike : p '\r' = p '\n') :
    Returned (text.takeWhile p) (other.takeWhile p) := by
  induction returned with
  | nil => exact .nil
  | @char c _ _ notReturn _ inductionHypothesis =>
      cases inClass : p c with
      | true =>
          rw [List.takeWhile_cons_of_pos inClass, List.takeWhile_cons_of_pos inClass]
          exact .char notReturn inductionHypothesis
      | false => simp [inClass, Returned.nil]
  | lineEnd _ inductionHypothesis =>
      cases inClass : p '\n' with
      | true =>
          rw [List.takeWhile_cons_of_pos inClass, List.takeWhile_cons_of_pos (alike.trans inClass),
            List.takeWhile_cons_of_pos inClass]
          exact .lineEnd inductionHypothesis
      | false => simp [inClass, alike.trans inClass, Returned.nil]

/-- A class with the newline in it has the carriage return as well. A class with the carriage return
only may stop between the two. -/
theorem dropWhile_returned (returned : Returned text other) (alike : p '\n' = true → p '\r' = true) :
    Returned (text.dropWhile p) (other.dropWhile p) := by
  induction returned with
  | nil => exact .nil
  | @char c _ _ notReturn later inductionHypothesis =>
      cases inClass : p c with
      | true =>
          rw [List.dropWhile_cons_of_pos inClass, List.dropWhile_cons_of_pos inClass]
          exact inductionHypothesis
      | false =>
          simp only [List.dropWhile_cons, inClass]
          exact .char notReturn later
  | lineEnd later inductionHypothesis =>
      cases newline : p '\n' with
      | true =>
          rw [List.dropWhile_cons_of_pos newline, List.dropWhile_cons_of_pos (alike newline),
            List.dropWhile_cons_of_pos newline]
          exact inductionHypothesis
      | false =>
          cases isReturn : p '\r' with
          | true =>
              simp only [List.dropWhile_cons, newline, isReturn]
              exact .char (by decide) later
          | false =>
              simp only [List.dropWhile_cons, newline, isReturn]
              exact .lineEnd later

theorem dropTrailing_returned (returned : Returned text other) (newline : p '\n' = true)
    (isReturn : p '\r' = true) : Returned (dropTrailing p text) (dropTrailing p other) := by
  induction returned with
  | nil => exact .nil
  | @char c text other notReturn _ inductionHypothesis =>
      rw [dropTrailing, dropTrailing]
      generalize dropTrailing p text = kept at inductionHypothesis ⊢
      generalize dropTrailing p other = otherKept at inductionHypothesis ⊢
      cases inductionHypothesis with
      | nil =>
          cases p c with
          | true => exact .nil
          | false => exact .char notReturn .nil
      | char inner later => exact .char notReturn (.char inner later)
      | lineEnd later => exact .char notReturn (.lineEnd later)
  | @lineEnd text other _ inductionHypothesis =>
      rw [dropTrailing, dropTrailing, dropTrailing, newline, isReturn]
      generalize dropTrailing p text = kept at inductionHypothesis ⊢
      generalize dropTrailing p other = otherKept at inductionHypothesis ⊢
      cases inductionHypothesis with
      | nil => exact .nil
      | char inner later => exact .lineEnd (.char inner later)
      | lineEnd later => exact .lineEnd (.lineEnd later)

theorem trim_returned (returned : Returned text other) : Returned (trim text) (trim other) :=
  dropTrailing_returned (dropWhile_returned returned fun _ => by decide) (by decide) (by decide)

theorem isBlank_returned (returned : Returned text other) : isBlank other = isBlank text := by
  have newline : isSpace '\n' = true := by decide
  have isReturn : isSpace '\r' = true := by decide
  unfold isBlank
  induction returned with
  | nil => rfl
  | char _ _ inductionHypothesis => rw [List.all_cons, List.all_cons, inductionHypothesis]
  | lineEnd _ inductionHypothesis =>
      rw [List.all_cons, List.all_cons, List.all_cons, inductionHypothesis, newline, isReturn,
        Bool.true_and]

theorem after?_returned (returned : Returned text other) (single : SingleLine word) :
    Option.Rel Returned (after? word text) (after? word other) := by
  induction word generalizing text other with
  | nil => exact .some returned
  | cons c word inductionHypothesis =>
      obtain ⟨notNewline, laterNewline⟩ := not_or.mp (mt List.mem_cons.mpr single.1)
      obtain ⟨notReturn, laterReturn⟩ := not_or.mp (mt List.mem_cons.mpr single.2)
      cases returned with
      | nil => exact .none
      | @char d _ _ _ later =>
          rw [after?, after?]
          by_cases same : c = d
          · rw [if_pos same, if_pos same]
            exact inductionHypothesis later ⟨laterNewline, laterReturn⟩
          · rw [if_neg same, if_neg same]
            exact .none
      | lineEnd _ =>
          rw [after?, after?, if_neg (Ne.symm notNewline), if_neg (Ne.symm notReturn)]
          exact .none

theorem startsWith_returned (returned : Returned text other) (single : SingleLine word) :
    startsWith word other = startsWith word text := by
  have found := after?_returned returned single
  unfold startsWith
  generalize after? word text = rest at found ⊢
  generalize after? word other = otherRest at found ⊢
  cases found with
  | none => rfl
  | some _ => rfl

/-- Two texts beside two others. -/
def ReturnedPair (found otherFound : List Char × List Char) : Prop :=
  Returned found.1 otherFound.1 ∧ Returned found.2 otherFound.2

theorem run?_returned (returned : Returned text other) (alike : p '\r' = p '\n') :
    Option.Rel ReturnedPair (run? p text) (run? p other) := by
  have taken := takeWhile_returned returned alike
  have left := dropWhile_returned returned fun newline => alike.trans newline
  unfold run?
  generalize text.takeWhile p = run at taken ⊢
  generalize other.takeWhile p = otherRun at taken ⊢
  cases taken with
  | nil => exact .none
  | char notReturn later => exact .some ⟨.char notReturn later, left⟩
  | lineEnd later => exact .some ⟨.lineEnd later, left⟩

/-! ### Lines -/

/-- Two pieces with one line on them: the last one of a text, or one before a newline. -/
inductive SameLine : List Char → List Char → Prop
  | last {line : List Char} (single : SingleLine line) : SameLine line line
  | newline {line : List Char} (single : SingleLine line) :
      SameLine (line ++ ['\n']) (line ++ ['\n'])
  | returned {line : List Char} (single : SingleLine line) :
      SameLine (line ++ ['\n']) (line ++ ['\r', '\n'])

theorem SameLine.cons {c : Char} {piece otherPiece : List Char} (same : SameLine piece otherPiece)
    (single : SingleLine [c]) : SameLine (c :: piece) (c :: otherPiece) := by
  cases same with
  | last later => exact .last (single.append later)
  | newline later => exact .newline (single.append later)
  | returned later => exact .returned (single.append later)

theorem returned_single (single : SingleLine text) : Returned text text := by
  have returned := returned_withReturns single.2
  rwa [returned.eq_of_single single.1] at returned

theorem SameLine.toReturned {piece otherPiece : List Char} (same : SameLine piece otherPiece) :
    Returned piece otherPiece := by
  cases same with
  | last single => exact returned_single single
  | newline single => exact (returned_single single).append (.char (by decide) .nil)
  | returned single => exact (returned_single single).append (.lineEnd .nil)

theorem returned_flatten {texts others : List (List Char)} (same : List.Forall₂ SameLine texts others) :
    Returned texts.flatten others.flatten := by
  induction same with
  | nil => exact .nil
  | cons first _ inductionHypothesis => exact first.toReturned.append inductionHypothesis

theorem pieces_returned (returned : Returned text other) :
    List.Forall₂ SameLine (pieces text) (pieces other) := by
  have empty : SingleLine [] := by decide
  induction returned with
  | nil => exact .nil
  | @char c text other notReturn _ inductionHypothesis =>
      rw [pieces, pieces]
      by_cases newline : c = '\n'
      · rw [if_pos newline, if_pos newline, newline]
        exact .cons (.newline empty) inductionHypothesis
      · have single : SingleLine [c] :=
          ⟨mt List.mem_singleton.mp (Ne.symm newline), mt List.mem_singleton.mp (Ne.symm notReturn)⟩
        rw [if_neg newline, if_neg newline]
        generalize pieces text = parts at inductionHypothesis ⊢
        generalize pieces other = otherParts at inductionHypothesis ⊢
        cases inductionHypothesis with
        | nil => exact .cons (.last single) .nil
        | cons first later => exact .cons (first.cons single) later
  | lineEnd _ inductionHypothesis =>
      rw [pieces, if_pos rfl, pieces, if_neg (by decide), pieces, if_pos rfl]
      exact .cons (.returned empty) inductionHypothesis

theorem lineOfPiece_returned {piece otherPiece : List Char} (same : SameLine piece otherPiece) :
    lineOfPiece otherPiece = lineOfPiece piece := by
  cases same with
  | last _ => rfl
  | newline _ => rfl
  | @returned line single =>
      have ending : (line ++ ['\r', '\n']).reverse = '\n' :: '\r' :: line.reverse := by simp
      rw [lineOfPiece_line single, lineOfPiece, ending]
      exact List.reverse_reverse line

theorem dropLineEnd_returned {piece otherPiece : List Char} (same : SameLine piece otherPiece) :
    dropLineEnd otherPiece = dropLineEnd piece := by
  cases same with
  | last _ => rfl
  | newline _ => rfl
  | returned single =>
      rw [dropLineEnd_append single, dropLineEnd_append single]
      rfl

/-- The lines of a text are the same with carriage returns before its newlines. -/
theorem lines_returned (returned : Returned text other) : lines other = lines text := by
  have same := pieces_returned returned
  unfold lines
  generalize pieces text = parts at same ⊢
  generalize pieces other = otherParts at same ⊢
  induction same with
  | nil => rfl
  | cons first _ inductionHypothesis =>
      rw [List.map_cons, List.map_cons, lineOfPiece_returned first, inductionHypothesis]

end Text

namespace Dump

open DeadSymbols.Text

variable {text other : List Char}

/-! ### Records -/

/-- Two records that differ in line ends only. -/
structure RawRecord.Returned (record other : RawRecord) : Prop where
  flavor : other.flavor = record.flavor
  body : Text.Returned record.body other.body

theorem RawRecord.Returned.outline? {record other : RawRecord} (same : record.Returned other) :
    other.outline? = record.outline? := by
  unfold RawRecord.outline?
  rw [lines_returned same.body, same.flavor]

/-- Two records that are being read from texts that differ in line ends only. -/
structure OpenRecord.Returned (record other : OpenRecord) : Prop where
  flavor : other.flavor = record.flavor
  pieces : List.Forall₂ SameLine record.pieces other.pieces

theorem closed_returned {current otherCurrent : Option OpenRecord}
    (same : Option.Rel OpenRecord.Returned current otherCurrent) :
    List.Forall₂ RawRecord.Returned (current.map OpenRecord.close).toList
      (otherCurrent.map OpenRecord.close).toList := by
  cases same with
  | none => exact .nil
  | some opened =>
      have body := returned_flatten (List.rel_reverse opened.pieces)
      exact .cons ⟨opened.flavor, body⟩ .nil

theorem recordsFrom_returned {current otherCurrent : Option OpenRecord}
    {texts others : List (List Char)} (same : Option.Rel OpenRecord.Returned current otherCurrent)
    (sameLines : List.Forall₂ SameLine texts others) :
    List.Forall₂ RawRecord.Returned (recordsFrom current texts) (recordsFrom otherCurrent others) := by
  induction sameLines generalizing current otherCurrent with
  | nil =>
      rw [recordsFrom, recordsFrom]
      exact closed_returned same
  | @cons piece otherPiece _ _ first _ inductionHypothesis =>
      rw [recordsFrom, recordsFrom, dropLineEnd_returned first]
      cases lineRole (dropLineEnd piece) with
      | header flavor =>
          exact List.rel_append (closed_returned same) (inductionHypothesis (.some ⟨rfl, .nil⟩))
      | terminator => exact List.rel_append (closed_returned same) (inductionHypothesis .none)
      | content =>
          apply inductionHypothesis
          cases same with
          | none => exact .none
          | some opened => exact .some ⟨opened.flavor, .cons first opened.pieces⟩

theorem rawRecords_returned (returned : Returned text other) :
    List.Forall₂ RawRecord.Returned (rawRecords text) (rawRecords other) :=
  recordsFrom_returned .none (pieces_returned returned)

/-! ### Selector references -/

theorem markedTexts_returned (returned : Returned text other) :
    markedTexts other = markedTexts text := by
  have single : SingleLine selectorMark := by decide
  induction length : text.length using Nat.strong_induction_on generalizing text other with
  | _ length inductionHypothesis =>
    subst length
    have found := after?_returned returned single
    cases returned with
    | nil => rfl
    | @char c tail otherTail _ later =>
        generalize first : after? selectorMark (c :: tail) = result at found
        generalize second : after? selectorMark (c :: otherTail) = otherResult at found
        cases found with
        | none =>
            rw [markedTexts_cons first, markedTexts_cons second]
            exact inductionHypothesis tail.length (length_lt_cons c tail) later rfl
        | @some rest otherRest same =>
            -- The marked texts end before the line end, so they are equal.
            have marked := takeWhile_returned (p := inLine) same (by decide)
            have inside : '\n' ∉ rest.takeWhile inLine := fun member =>
              absurd (List.mem_takeWhile_imp member) (by decide)
            rw [after?_eq_some_iff.mp first, after?_eq_some_iff.mp second, markedTexts_mark,
              markedTexts_mark, marked.eq_of_single inside,
              inductionHypothesis _ (length_lt_of_marked first)
                (dropWhile_returned same (by decide)) rfl]
    | @lineEnd tail otherTail later =>
        have newline (rest : List Char) : after? selectorMark ('\n' :: rest) = none := rfl
        have isReturn (rest : List Char) : after? selectorMark ('\r' :: rest) = none := rfl
        rw [markedTexts_cons (isReturn _), markedTexts_cons (newline _), markedTexts_cons (newline _)]
        exact inductionHypothesis tail.length (length_lt_cons '\n' tail) later rfl

theorem selectorsIn_returned (returned : Returned text other) :
    selectorsIn other = selectorsIn text := by
  rw [selectorsIn, selectorsIn, markedTexts_returned returned]

/-! ### Section headers -/

theorem rel_bind {α β γ δ : Type} {R : α → β → Prop} {S : γ → δ → Prop} {found : Option α}
    {otherFound : Option β} {f : α → Option γ} {g : β → Option δ}
    (same : Option.Rel R found otherFound) (next : ∀ a b, R a b → Option.Rel S (f a) (g b)) :
    Option.Rel S (found.bind f) (otherFound.bind g) := by
  cases same with
  | none => exact .none
  | some related => exact next _ _ related

theorem rel_map {α β γ δ : Type} {R : α → β → Prop} {S : γ → δ → Prop} {found : Option α}
    {otherFound : Option β} {f : α → γ} {g : β → δ} (same : Option.Rel R found otherFound)
    (next : ∀ a b, R a b → S (f a) (g b)) : Option.Rel S (found.map f) (otherFound.map g) := by
  cases same with
  | none => exact .none
  | some related => exact .some (next _ _ related)

theorem nameField?_returned {word : List Char} (returned : Returned text other)
    (single : SingleLine word) :
    Option.Rel ReturnedPair (nameField? word text) (nameField? word other) := by
  apply rel_bind (run?_returned returned (by decide))
  intro found otherFound same
  apply rel_map (after?_returned same.2 single)
  intro rest otherRest later
  exact ⟨same.1, later⟩

/-- Two headers whose names differ in line ends only. -/
structure Header.Returned (header other : Header) : Prop where
  segment : Text.Returned header.segment other.segment
  name : Text.Returned header.name other.name

/-- The names of sections hold no line end. -/
theorem Header.Returned.names {header other : Header} (same : header.Returned other) {name : String}
    (single : '\n' ∉ name.toList) : other.names name = header.names name := by
  unfold Header.names
  rw [startsWith_returned (trim_returned same.segment) (by decide),
    (trim_returned same.name).beq_single single]

theorem header?_returned (returned : Returned text other) :
    Option.Rel (fun found otherFound => found.1.Returned otherFound.1 ∧
      Text.Returned found.2 otherFound.2) (header? text) (header? other) := by
  rw [header?_eq_fields, header?_eq_fields]
  have indented := dropWhile_returned (p := isIndent) returned (by decide)
  apply rel_bind (after?_returned indented (by decide))
  intro opened otherOpened sameOpened
  apply rel_bind (nameField?_returned sameOpened (by decide))
  intro segment otherSegment sameSegment
  apply rel_map (nameField?_returned sameSegment.2 (by decide))
  intro name otherName sameName
  exact ⟨⟨sameSegment.1, sameName.1⟩, dropWhile_returned sameName.2 (by decide)⟩

/-- Two blocks that differ in line ends only. -/
structure Block.Returned (block other : Block) : Prop where
  header : block.header.Returned other.header
  body : Text.Returned block.body other.body

/-- A line end is no header, and the text goes on behind it. -/
theorem cut_lineEnd {lineStart : Bool} :
    cut lineStart ('\n' :: text) = ('\n' :: (cut true text).1, (cut true text).2) ∧
    cut lineStart ('\r' :: '\n' :: text) =
      ('\r' :: '\n' :: (cut true text).1, (cut true text).2) := by
  have newline : '\n' ∉ ([] : List Char) := by decide
  have isReturn : '\n' ∉ ['\r'] := by decide
  cases lineStart with
  | false => exact ⟨cut_inLine newline, cut_inLine isReturn⟩
  | true => exact ⟨cut_line newline (by decide), cut_line isReturn (by decide)⟩

theorem cut_returned (lineStart : Bool) (returned : Returned text other) :
    Text.Returned (cut lineStart text).1 (cut lineStart other).1 ∧
      List.Forall₂ Block.Returned (cut lineStart text).2 (cut lineStart other).2 := by
  induction length : text.length using Nat.strong_induction_on
    generalizing text other lineStart with
  | _ length inductionHypothesis =>
    subst length
    have found := header?_returned returned
    cases returned with
    | nil => rw [cut_nil]; exact ⟨.nil, .nil⟩
    | @char c tail otherTail notReturn later =>
        have step := inductionHypothesis tail.length (length_lt_cons c tail) (c = '\n') later rfl
        cases lineStart with
        | false =>
            rw [cut_cons rfl, cut_cons rfl]
            exact ⟨.char notReturn step.1, step.2⟩
        | true =>
            generalize first : header? (c :: tail) = result at found
            generalize second : header? (c :: otherTail) = otherResult at found
            cases found with
            | none =>
                have noHeader : headerAt? true (c :: tail) = none := first
                have otherNoHeader : headerAt? true (c :: otherTail) = none := second
                rw [cut_cons noHeader, cut_cons otherNoHeader]
                exact ⟨.char notReturn step.1, step.2⟩
            | @some result otherResult same =>
                have body := inductionHypothesis _ (header?_length first) false same.2 rfl
                rw [cut_header first, cut_header second]
                exact ⟨.nil, .cons ⟨same.1, body.1⟩ body.2⟩
    | @lineEnd tail otherTail later =>
        have step := inductionHypothesis tail.length (length_lt_cons '\n' tail) true later rfl
        rw [cut_lineEnd.1, cut_lineEnd.2]
        exact ⟨.lineEnd step.1, step.2⟩

theorem rel_find? {α β : Type} {R : α → β → Prop} {items : List α} {others : List β}
    {test : α → Bool} {otherTest : β → Bool} (same : List.Forall₂ R items others)
    (alike : ∀ a b, R a b → otherTest b = test a) :
    Option.Rel R (items.find? test) (others.find? otherTest) := by
  induction same with
  | nil => exact .none
  | @cons a b _ _ related _ inductionHypothesis =>
      rw [List.find?_cons, List.find?_cons, alike a b related]
      cases test a with
      | true => exact .some related
      | false => exact inductionHypothesis

theorem sectionBody?_returned (returned : Returned text other) {name : String}
    (single : '\n' ∉ name.toList) :
    Option.Rel Text.Returned (sectionBody? text name) (sectionBody? other name) := by
  have blocks : List.Forall₂ Block.Returned (layout text).blocks (layout other).blocks :=
    (cut_returned true returned).2
  apply rel_map (rel_find? blocks fun _ _ same => same.header.names single)
  intro block otherBlock same
  exact same.body

/-- What is read from a section is the same, whether the section is there or not. -/
theorem readSection_returned {α : Type} {read : List Char → α} {missing : α}
    (reads : ∀ body otherBody, Text.Returned body otherBody → read otherBody = read body)
    (returned : Returned text other) {name : String} (single : '\n' ∉ name.toList) :
    ((sectionBody? other name).map read).getD missing =
      ((sectionBody? text name).map read).getD missing := by
  have same := sectionBody?_returned returned single
  generalize sectionBody? text name = body at same ⊢
  generalize sectionBody? other name = otherBody at same ⊢
  cases same with
  | none => rfl
  | some related => exact reads _ _ related

theorem declaredClasses_returned (returned : Returned text other) :
    declaredClasses other = declaredClasses text := by
  apply readSection_returned _ returned (by decide)
  intro body otherBody same
  rw [declaredIn, declaredIn, lines_returned same]

theorem referencedClasses_returned (returned : Returned text other) :
    referencedClasses other = referencedClasses text := by
  apply readSection_returned _ returned (by decide)
  intro body otherBody same
  rw [referencedIn, referencedIn, lines_returned same]

theorem referencedSelectors_returned (returned : Returned text other) :
    referencedSelectors other = referencedSelectors text := by
  rw [referencedSelectors, referencedSelectors, ← Option.getD_map selectorsIn,
    ← Option.getD_map selectorsIn, selectorsIn_returned returned]
  exact readSection_returned (fun _ _ => selectorsIn_returned) returned (by decide)

end Dump

/-! ### The analysis -/

open DeadSymbols.Text
open DeadSymbols.Dump
open DeadSymbols.Name

variable {σ : Type} {demangler : Demangler σ}

/-- Of a record, the analysis sees its outline only. -/
theorem parseRecordsWith_returned {records others : List RawRecord}
    (same : List.Forall₂ RawRecord.Returned records others) :
    parseRecordsWith demangler others = parseRecordsWith demangler records := by
  induction same with
  | nil => rfl
  | cons first _ inductionHypothesis =>
      rw [parseRecordsWith, parseRecordsWith, RawRecord.parseWith?, RawRecord.parseWith?,
        first.outline?, inductionHypothesis]

theorem filter_flavor_returned {records others : List RawRecord} (flavor : Flavor)
    (same : List.Forall₂ RawRecord.Returned records others) :
    List.Forall₂ RawRecord.Returned (records.filter (·.flavor = flavor))
      (others.filter (·.flavor = flavor)) := by
  refine List.rel_filter ?_ same
  intro record other alike
  show decide (record.flavor = flavor) = true ↔ decide (other.flavor = flavor) = true
  rw [decide_eq_true_iff, decide_eq_true_iff, alike.flavor]

theorem isEmpty_returned {records others : List RawRecord}
    (same : List.Forall₂ RawRecord.Returned records others) : others.isEmpty = records.isEmpty := by
  cases same with
  | nil => rfl
  | cons _ _ => rfl

/-- Two readings of texts that differ in line ends only. -/
structure Metadata.Returned (metadata other : Metadata) : Prop where
  native : List.Forall₂ RawRecord.Returned metadata.native other.native
  bridged : List.Forall₂ RawRecord.Returned metadata.bridged other.bridged
  selectors : other.selectors = metadata.selectors
  declared : other.declared = metadata.declared
  referenced : other.referenced = metadata.referenced

namespace Metadata.Returned

variable {metadata other : Metadata}

theorem isEmpty (same : metadata.Returned other) : other.isEmpty = metadata.isEmpty := by
  rw [Metadata.isEmpty, Metadata.isEmpty, isEmpty_returned same.native,
    isEmpty_returned same.bridged, same.selectors, same.declared, same.referenced]

theorem indexWith (same : metadata.Returned other) :
    other.indexWith demangler = metadata.indexWith demangler := by
  rw [Metadata.indexWith, Metadata.indexWith, indexRecordsWith, indexRecordsWith, indexRecordsWith,
    indexRecordsWith, parseRecordsWith_returned same.native, parseRecordsWith_returned same.bridged]

theorem compareWith (same : metadata.Returned other) (whitelist : NameSet) (index : Index) :
    other.compareWith demangler whitelist index = metadata.compareWith demangler whitelist index := by
  rw [Metadata.compareWith, Metadata.compareWith, same.selectors, same.declared, same.referenced]

end Metadata.Returned

section Texts

variable {dump otherDump selectorText otherText : List Char}

theorem selectorSource_returned (dumps : Returned dump otherDump)
    (texts : Returned selectorText otherText) :
    Returned (selectorSource dump selectorText) (selectorSource otherDump otherText) := by
  rw [selectorSource, selectorSource, isBlank_returned texts]
  split
  · exact dumps
  · exact texts

theorem ofTexts_returned (dumps : Returned dump otherDump)
    (texts : Returned selectorText otherText) :
    (Metadata.ofTexts dump selectorText).Returned (Metadata.ofTexts otherDump otherText) where
  native := filter_flavor_returned .native (rawRecords_returned dumps)
  bridged := filter_flavor_returned .bridged (rawRecords_returned dumps)
  selectors := referencedSelectors_returned (selectorSource_returned dumps texts)
  declared := declaredClasses_returned dumps
  referenced := referencedClasses_returned dumps

/-- Some line ends of the texts may have a carriage return, and others none. -/
theorem analyzeWith_returned (whitelist : NameSet) (dumps : Returned dump otherDump)
    (texts : Returned selectorText otherText) :
    analyzeWith demangler whitelist otherDump otherText =
      analyzeWith demangler whitelist dump selectorText := by
  have same := ofTexts_returned dumps texts
  rw [analyzeWith, analyzeWith, same.isEmpty, same.indexWith]
  simp only [same.compareWith whitelist]

end Texts

/-- The report is the same with a carriage return before every newline, and so is the state in which
the demangler is left. -/
theorem analyzeWith_line_ends (demangler : Demangler σ) (whitelist : NameSet)
    {dump selectorText : List Char} (dumpPlain : '\r' ∉ dump) (selectorsPlain : '\r' ∉ selectorText) :
    analyzeWith demangler whitelist (withReturns dump) (withReturns selectorText) =
      analyzeWith demangler whitelist dump selectorText :=
  analyzeWith_returned whitelist (returned_withReturns dumpPlain)
    (returned_withReturns selectorsPlain)

/-- A class list whose header runs over a line end. -/
theorem analyzeWith_line_ends_spread :
    let dump := unlines ["Contents of (__DATA".toList, ",__objc_classlist) section".toList,
      "data 0x1 (struct class_ro_t *)".toList, "name 0x2 K".toList, "baseMethods 0x3".toList,
      "name 0x4 run".toList, "imp 0x5".toList]
    let selectorText := unlines ["__TEXT:__objc_methname:stop".toList]
    '\r' ∉ dump ∧ '\r' ∉ selectorText ∧
      analyzeWith identity ∅ (withReturns dump) (withReturns selectorText) () =
        analyzeWith identity ∅ dump selectorText () := by
  intro dump selectorText
  have dumpPlain : '\r' ∉ dump := by decide +kernel
  have selectorsPlain : '\r' ∉ selectorText := by decide +kernel
  refine ⟨dumpPlain, selectorsPlain, ?_⟩
  exact congrFun (analyzeWith_line_ends identity ∅ dumpPlain selectorsPlain) ()

end DeadSymbols
