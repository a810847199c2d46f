import DeadSymbols.Proofs.Appended
import Mathlib.Data.List.Forall2

/-!
Contract: the lines that the records of a dump extend over.

An extent is a header line of a record with the longest run of lines behind it none of which closes a
record. `LiesIn` says so without any reader, and the extents of a dump are found line by line. They
stand one behind the other, and the records of the dump are theirs, in the same order.

A record can also be kept as the offset of the octet at which its body starts. Its body is then a
slice of the dump, which fails where an offset lies behind the end, inside a character or behind the
other one. `sliceRecords?` reads a dump in this way, never fails, and gives the same records.

Owns: `Extent`, the slices of a text, `sliceRecords?`.
-/

namespace DeadSymbols

namespace Text

variable {text : List Char}

/-! ### Lines with their ends -/

theorem flatten_pieces : (pieces text).flatten = text := by
  fun_induction pieces text with
  | case1 => rfl
  | case2 rest inductionHypothesis =>
      rw [List.flatten_cons, inductionHypothesis]
      rfl
  | case3 c rest inLine empty inductionHypothesis =>
      rw [empty] at inductionHypothesis
      rw [← inductionHypothesis]
      rfl
  | case4 c rest inLine piece more found inductionHypothesis =>
      rw [found] at inductionHypothesis
      rw [← inductionHypothesis]
      rfl

/-- A piece is a line: it has no newline before its end, and ends in one when another piece
follows. -/
structure IsLine (line : List Char) (back : List (List Char)) : Prop where
  ne_nil : line ≠ []
  single : '\n' ∉ line.dropLast
  closed : back ≠ [] → Closed line

theorem isLine_pieces {line : List Char} {front back : List (List Char)}
    (split : pieces text = front ++ line :: back) : IsLine line back := by
  fun_induction pieces text generalizing front line with
  | case1 => simp at split
  | case2 rest inductionHypothesis =>
      cases front with
      | nil =>
          obtain ⟨rfl, rfl⟩ := List.cons.inj split
          exact ⟨List.cons_ne_nil _ [], List.not_mem_nil, fun _ => rfl⟩
      | cons first front => exact inductionHypothesis (List.cons.inj split).2
  | case3 c rest inLine empty inductionHypothesis =>
      cases front with
      | nil =>
          obtain ⟨rfl, rfl⟩ := List.cons.inj split
          exact ⟨List.cons_ne_nil c [], List.not_mem_nil, fun more => absurd rfl more⟩
      | cons first front => simp at split
  | case4 c rest inLine piece more found inductionHypothesis =>
      cases front with
      | nil =>
          obtain ⟨rfl, rfl⟩ := List.cons.inj split
          obtain ⟨notEmpty, single, closed⟩ :=
            inductionHypothesis (show pieces rest = [] ++ piece :: more from found)
          refine ⟨List.cons_ne_nil c piece, ?_, ?_⟩
          · rw [List.dropLast_cons_of_ne_nil notEmpty, List.mem_cons]
            rintro (newline | later)
            · exact inLine newline.symm
            · exact single later
          · intro following
            rw [Closed, List.getLast?_cons_of_ne_nil notEmpty]
            exact closed following
      | cons first front =>
          obtain ⟨rfl, rfl⟩ := List.cons.inj split
          exact inductionHypothesis (show pieces rest = (piece :: front) ++ line :: back from found)

/-! ### Slices -/

/-- The number of octets of a text in UTF-8. -/
def octets : List Char → Nat
  | [] => 0
  | c :: rest => c.utf8Size + octets rest

@[simp] theorem octets_append {more : List Char} : octets (text ++ more) = octets text + octets more := by
  induction text with
  | nil => simp [octets]
  | cons c text inductionHypothesis =>
      rw [List.cons_append, octets, octets, inductionHypothesis, Nat.add_assoc]

/-- The two parts of a text that meet at an octet, when a character starts there or the text ends
there. -/
def splitAt? : Nat → List Char → Option (List Char × List Char)
  | 0, text => some ([], text)
  | _ + 1, [] => none
  | count + 1, c :: rest =>
    if c.utf8Size ≤ count + 1 then
      (splitAt? (count + 1 - c.utf8Size) rest).map fun parts => (c :: parts.1, parts.2)
    else none

theorem splitAt?_eq_some_iff {offset : Nat} {front back : List Char} :
    splitAt? offset text = some (front, back) ↔ text = front ++ back ∧ offset = octets front := by
  fun_induction splitAt? offset text generalizing front with
  | case1 text =>
      cases front with
      | nil => simp [octets, eq_comm]
      | cons c front =>
          have positive := Char.utf8Size_pos c
          have longer : 0 ≠ octets (c :: front) := by
            rw [octets]
            omega
          simp [longer]
  | case2 count =>
      cases front with
      | nil => simp [octets]
      | cons c front => simp
  | case3 count c rest fits inductionHypothesis =>
      cases front with
      | nil => simp [octets]
      | cons d front =>
          rw [Option.map_eq_some_iff]
          simp only [Prod.exists, Prod.mk.injEq, List.cons.injEq, List.cons_append, octets]
          constructor
          · rintro ⟨_, _, found, ⟨rfl, rfl⟩, rfl⟩
            obtain ⟨rfl, counted⟩ := inductionHypothesis.mp found
            exact ⟨⟨rfl, rfl⟩, by omega⟩
          · rintro ⟨⟨rfl, rfl⟩, counted⟩
            exact ⟨front, back, inductionHypothesis.mpr ⟨rfl, by omega⟩, ⟨rfl, rfl⟩, rfl⟩
  | case4 count c rest exceeds =>
      refine iff_of_false (Option.some_ne_none _).symm ?_
      rintro ⟨whole, counted⟩
      cases front with
      | nil => simp [octets] at counted
      | cons d front =>
          obtain ⟨rfl, rfl⟩ := List.cons.inj whole
          rw [octets] at counted
          omega

/-- The text between two offsets. -/
def slice? (text : List Char) (start stop : Nat) : Option (List Char) :=
  if start ≤ stop then do
    let (_, rest) ← splitAt? start text
    let (body, _) ← splitAt? (stop - start) rest
    return body
  else none

/-- A slice is taken exactly where both offsets are those of parts of the text. -/
theorem slice?_eq_some_iff {start stop : Nat} {body : List Char} :
    slice? text start stop = some body ↔
      ∃ before after, text = before ++ (body ++ after) ∧ start = octets before ∧
        stop = octets (before ++ body) := by
  unfold slice?
  split
  · rename_i ordered
    simp only [bind, pure, Option.bind_eq_some_iff, Prod.exists, Option.some.injEq,
      splitAt?_eq_some_iff, octets_append]
    constructor
    · rintro ⟨before, _, ⟨rfl, rfl⟩, _, after, ⟨rfl, counted⟩, rfl⟩
      exact ⟨before, after, rfl, rfl, by omega⟩
    · rintro ⟨before, after, rfl, rfl, counted⟩
      exact ⟨before, _, ⟨rfl, rfl⟩, body, after, ⟨rfl, by omega⟩, rfl⟩
  · rename_i crossed
    refine iff_of_false (Option.some_ne_none _).symm ?_
    rintro ⟨before, after, _, rfl, rfl⟩
    rw [octets_append] at crossed
    omega

example : slice? "aéb".toList 1 3 = some "é".toList ∧ slice? "aéb".toList 1 2 = none := by decide

end Text

namespace Dump

open DeadSymbols.Text

variable {line piece rest : List Char} {before lines : List (List Char)} {flavor : Flavor}

/-! ### The roles of lines with their ends -/

/-- A header line that says behind its pointer that the class is a Swift class. -/
def SwiftMarked (line : List Char) : Prop :=
  ∃ rest, PointerLine line rest ∧ LedBy "Swift class".toList rest

theorem exists_append_dropLineEnd (piece : List Char) :
    ∃ tail, piece = dropLineEnd piece ++ tail := by
  refine ⟨(piece.reverse.takeWhile fun c => c = '\n' || c = '\r').reverse, ?_⟩
  rw [dropLineEnd, ← List.reverse_append, List.takeWhile_append_dropWhile, List.reverse_reverse]

theorem recordLine_dropLineEnd : RecordLine (dropLineEnd piece) ↔ RecordLine piece := by
  obtain ⟨tail, whole⟩ := exists_append_dropLineEnd piece
  exact ⟨fun record => whole ▸ record.append, RecordLine.dropLineEnd⟩

theorem closingLine_dropLineEnd : ClosingLine (dropLineEnd piece) ↔ ClosingLine piece := by
  obtain ⟨tail, whole⟩ := exists_append_dropLineEnd piece
  exact ⟨fun closing => whole ▸ closing.append, ClosingLine.dropLineEnd⟩

theorem swiftMarked_dropLineEnd : SwiftMarked (dropLineEnd piece) ↔ SwiftMarked piece := by
  obtain ⟨tail, whole⟩ := exists_append_dropLineEnd piece
  constructor
  · rintro ⟨rest, pointer, led⟩
    exact ⟨rest ++ tail, whole ▸ pointer.append, led.append⟩
  · rintro ⟨rest, pointer, led⟩
    exact ⟨dropLineEnd rest, pointer.dropLineEnd, led.dropLineEnd (by decide)⟩

theorem swiftMarked_iff (found : afterRecordPointer? line = some rest) :
    SwiftMarked line ↔ startsWith "Swift class".toList (trimStart rest) = true := by
  rw [startsWith_trimStart_iff (by decide)]
  constructor
  · rintro ⟨other, pointer, led⟩
    rw [← afterRecordPointer?_eq_some_iff, found] at pointer
    rwa [Option.some.inj pointer]
  · intro led
    exact ⟨rest, afterRecordPointer?_eq_some_iff.mp found, led⟩

theorem lineRole_eq_header_iff :
    lineRole line = .header flavor ↔ RecordLine line ∧ (flavor = .bridged ↔ SwiftMarked line) := by
  rw [← afterRecordPointer?_isSome_iff, lineRole]
  cases found : afterRecordPointer? line with
  | some rest =>
      rw [swiftMarked_iff found]
      dsimp only
      split
      · cases flavor <;> simp_all
      · cases flavor <;> simp_all
  | none =>
      refine iff_of_false ?_ (fun parts => Bool.false_ne_true parts.1)
      dsimp only
      split
      · exact LineRole.noConfusion
      · exact LineRole.noConfusion

/-- The piece belongs to the record that is open before it. -/
def goesOn (piece : List Char) : Bool := lineRole (dropLineEnd piece) = .content

theorem goesOn_iff : goesOn piece = true ↔ ¬ ClosingLine piece := by
  rw [goesOn, decide_eq_true_iff, ← closingLine_dropLineEnd, ← lineRole_ne_content_iff, not_not]

/-! ### Extents -/

/-- A header line and the lines of its record, with the lines before and after them. -/
@[ext]
structure Extent where
  before : List (List Char)
  header : List Char
  lines : List (List Char)
  after : List (List Char)

/-- The lines of a text are those of the extent: it opens a record, and its record goes on as long
as no line closes it. -/
structure Extent.LiesIn (texts : List (List Char)) (extent : Extent) : Prop where
  whole : texts = extent.before ++ extent.header :: (extent.lines ++ extent.after)
  opens : RecordLine extent.header
  goesOn : ∀ line ∈ extent.lines, ¬ ClosingLine line
  stops : ∀ line ∈ extent.after.head?, ClosingLine line

/-- The text before the header line. -/
def Extent.start (extent : Extent) : List Char := extent.before.flatten

/-- The text up to the end of the record. -/
def Extent.stop (extent : Extent) : List Char :=
  extent.start ++ (extent.header ++ extent.lines.flatten)

/-- The first extent is over before the second one starts. -/
def Extent.Precedes (first second : Extent) : Prop :=
  first.before ++ first.header :: first.lines <+: second.before

/-- The record of an extent. -/
structure Extent.Gives (extent : Extent) (record : RawRecord) : Prop where
  body : record.body = extent.lines.flatten
  flavor : record.flavor = .bridged ↔ SwiftMarked extent.header

/-- The extent of the record that a line opens. -/
def extentAt (before : List (List Char)) (header : List Char) (rest : List (List Char)) : Extent :=
  { before, header, lines := rest.takeWhile goesOn, after := rest.dropWhile goesOn }

/-- The extents among the lines that are left, given the lines before them. -/
def extentsFrom (before : List (List Char)) : List (List Char) → List Extent
  | [] => []
  | line :: rest =>
    match lineRole (dropLineEnd line) with
    | .header _ => extentAt before line rest :: extentsFrom (before ++ [line]) rest
    | _ => extentsFrom (before ++ [line]) rest

theorem recordLine_iff_role :
    RecordLine piece ↔ ∃ flavor, lineRole (dropLineEnd piece) = .header flavor := by
  simp only [lineRole_eq_header_iff, exists_and_left, recordLine_dropLineEnd]
  refine (and_iff_left ?_).symm
  by_cases marked : SwiftMarked (dropLineEnd piece)
  · exact ⟨.bridged, iff_of_true rfl marked⟩
  · exact ⟨.native, iff_of_false Flavor.noConfusion marked⟩

theorem extentsFrom_header (opens : RecordLine line) :
    extentsFrom before (line :: lines) =
      extentAt before line lines :: extentsFrom (before ++ [line]) lines := by
  obtain ⟨flavor, role⟩ := recordLine_iff_role.mp opens
  rw [extentsFrom, role]

theorem extentsFrom_other (other : ¬ RecordLine line) :
    extentsFrom before (line :: lines) = extentsFrom (before ++ [line]) lines := by
  rw [extentsFrom]
  cases role : lineRole (dropLineEnd line) with
  | header flavor => exact absurd (recordLine_iff_role.mpr ⟨flavor, role⟩) other
  | terminator => rfl
  | content => rfl

/-- A run of lines that go on is over before a line that closes a record. -/
theorem prefix_of_closing {run after front back : List (List Char)}
    (goOn : ∀ line ∈ run, ¬ ClosingLine line) (stops : ∀ line ∈ back.head?, ClosingLine line)
    (same : run ++ after = front ++ back) : run <+: front := by
  rcases List.append_eq_append_iff.mp same with ⟨gap, rfl, _⟩ | ⟨inside, rfl, rfl⟩
  · exact List.prefix_append run gap
  · cases inside with
    | nil => rw [List.append_nil]
    | cons first inside =>
        have member : first ∈ front ++ first :: inside :=
          List.mem_append_right front List.mem_cons_self
        exact absurd (stops first rfl) (goOn first member)

/-- Two extents with the same lines before them are the same. -/
theorem Extent.LiesIn.eq {texts : List (List Char)} {first second : Extent}
    (lies : first.LiesIn texts) (other : second.LiesIn texts) (same : first.before = second.before) :
    first = second := by
  have whole := lies.whole.symm.trans other.whole
  rw [same] at whole
  obtain ⟨sameHeader, tails⟩ := List.cons.inj (List.append_cancel_left whole)
  have shorter := prefix_of_closing lies.goesOn other.stops tails
  have longer := prefix_of_closing other.goesOn lies.stops tails.symm
  have sameLines := shorter.eq_of_length_le longer.length_le
  rw [sameLines] at tails
  exact Extent.ext same sameHeader sameLines (List.append_cancel_left tails)

theorem extentAt_liesIn (opens : RecordLine line) :
    (extentAt before line lines).LiesIn (before ++ line :: lines) := by
  refine ⟨?_, opens, ?_, ?_⟩
  · rw [extentAt, List.takeWhile_append_dropWhile]
  · intro other member
    exact goesOn_iff.mp (List.mem_takeWhile_imp member)
  · intro other first
    have boundary := List.head?_dropWhile_not goesOn lines
    rw [show (lines.dropWhile goesOn).head? = some other from first] at boundary
    by_contra notClosing
    exact Bool.false_ne_true (boundary.symm.trans (goesOn_iff.mpr notClosing))

/-- The extents behind some lines are all those of the text. -/
theorem mem_extentsFrom {extent : Extent} :
    extent ∈ extentsFrom before lines ↔
      before <+: extent.before ∧ extent.LiesIn (before ++ lines) := by
  induction lines generalizing before with
  | nil =>
      refine iff_of_false List.not_mem_nil ?_
      rintro ⟨⟨gap, shape⟩, lies⟩
      have counted := congrArg List.length lies.whole
      simp [← shape] at counted
  | cons line lines inductionHypothesis =>
      have later : extent ∈ extentsFrom (before ++ [line]) lines ↔
          before ++ [line] <+: extent.before ∧ extent.LiesIn (before ++ line :: lines) := by
        rw [inductionHypothesis, List.append_assoc, List.singleton_append]
      -- An extent behind the lines is opened by the next line or stands behind that as well.
      have next (starts : before <+: extent.before)
          (lies : extent.LiesIn (before ++ line :: lines)) :
          (extent.before = before ∧ extent.header = line) ∨ before ++ [line] <+: extent.before := by
        obtain ⟨gap, shape⟩ := starts
        have whole := lies.whole
        rw [← shape, List.append_assoc] at whole
        have behind := List.append_cancel_left whole
        cases gap with
        | nil =>
            rw [List.append_nil] at shape
            exact Or.inl ⟨shape.symm, (List.cons.inj behind).1.symm⟩
        | cons other gap =>
            obtain ⟨rfl, _⟩ := List.cons.inj behind
            refine Or.inr ⟨gap, ?_⟩
            rw [List.append_assoc, List.singleton_append, shape]
      by_cases opens : RecordLine line
      · rw [extentsFrom_header opens, List.mem_cons, later]
        constructor
        · rintro (rfl | ⟨starts, lies⟩)
          · exact ⟨List.prefix_rfl, extentAt_liesIn opens⟩
          · exact ⟨(List.prefix_append _ _).trans starts, lies⟩
        · rintro ⟨starts, lies⟩
          rcases next starts lies with ⟨same, _⟩ | behind
          · exact Or.inl (lies.eq (extentAt_liesIn opens) same)
          · exact Or.inr ⟨behind, lies⟩
      · rw [extentsFrom_other opens, later]
        refine and_congr_left fun lies => ⟨(List.prefix_append _ _).trans, fun starts => ?_⟩
        refine (next starts lies).resolve_left ?_
        rintro ⟨_, rfl⟩
        exact opens lies.opens

/-- The extents of the records of a dump. -/
def extents (dump : List Char) : List Extent := extentsFrom [] (pieces dump)

theorem mem_extents {dump : List Char} {extent : Extent} :
    extent ∈ extents dump ↔ extent.LiesIn (pieces dump) := by
  rw [extents, mem_extentsFrom, List.nil_append, and_iff_right List.nil_prefix]

theorem pairwise_extentsFrom : (extentsFrom before lines).Pairwise Extent.Precedes := by
  induction lines generalizing before with
  | nil => exact List.Pairwise.nil
  | cons line lines inductionHypothesis =>
      by_cases opens : RecordLine line
      · rw [extentsFrom_header opens]
        refine List.Pairwise.cons ?_ inductionHypothesis
        intro later member
        obtain ⟨⟨gap, shape⟩, lies⟩ := mem_extentsFrom.mp member
        have first : (extentAt before line lines).LiesIn (before ++ line :: lines) :=
          extentAt_liesIn opens
        have whole := lies.whole
        rw [← shape, List.append_assoc (before ++ [line])] at whole
        have behind : lines.takeWhile goesOn ++ lines.dropWhile goesOn =
            gap ++ later.header :: (later.lines ++ later.after) := by
          rw [List.takeWhile_append_dropWhile]
          exact List.append_cancel_left whole
        have inGap : lines.takeWhile goesOn <+: gap := by
          refine prefix_of_closing first.goesOn ?_ behind
          rintro _ ⟨rfl⟩
          exact Or.inl lies.opens
        rw [Extent.Precedes, ← shape, List.append_assoc]
        exact (List.prefix_append_right_inj before).mpr ((List.prefix_cons_inj line).mpr inGap)
      · rw [extentsFrom_other opens]
        exact inductionHypothesis

/-! ### The records of the extents -/

/-- An open record takes the lines up to the next one that closes it. -/
theorem recordsFrom_open {current : OpenRecord} :
    recordsFrom (some current) lines =
      { flavor := current.flavor
        body := current.pieces.reverse.flatten ++ (lines.takeWhile goesOn).flatten } ::
        recordsFrom none lines := by
  induction lines generalizing current with
  | nil => simp [recordsFrom, OpenRecord.close]
  | cons piece lines inductionHypothesis =>
      rw [recordsFrom, recordsFrom, List.takeWhile_cons, goesOn]
      cases lineRole (dropLineEnd piece) with
      | header flavor => simp [OpenRecord.close]
      | terminator => simp [OpenRecord.close]
      | content => simp [inductionHypothesis]

theorem extentsFrom_gives :
    List.Forall₂ Extent.Gives (extentsFrom before lines) (recordsFrom none lines) := by
  induction lines generalizing before with
  | nil => exact List.Forall₂.nil
  | cons line lines inductionHypothesis =>
      rw [extentsFrom, recordsFrom]
      cases role : lineRole (dropLineEnd line) with
      | header flavor =>
          have marked := (lineRole_eq_header_iff.mp role).2.trans swiftMarked_dropLineEnd
          simp only [Option.map_none, Option.toList_none, List.nil_append, recordsFrom_open]
          exact List.Forall₂.cons ⟨rfl, marked⟩ inductionHypothesis
      | terminator => exact inductionHypothesis
      | content => exact inductionHypothesis

/-! ### Records as slices -/

/-- A record that is being read: its flavor and the offset at which its body starts. -/
structure OpenSlice where
  flavor : Flavor
  start : Nat

/-- The record that is open, if there is one, up to an offset. -/
def closeAt? (dump : List Char) (stop : Nat) : Option OpenSlice → Option (List RawRecord)
  | none => some []
  | some { flavor, start } => (slice? dump start stop).map fun body => [{ flavor, body }]

/-- The records among the lines that are left, as slices of the dump, given the offset of these lines
and the record that is open before them. -/
def sliceFrom? (dump : List Char) : Nat → Option OpenSlice → List (List Char) →
    Option (List RawRecord)
  | _, current, [] => closeAt? dump (octets dump) current
  | offset, current, piece :: rest =>
    let next := offset + octets piece
    match lineRole (dropLineEnd piece) with
    | .header flavor => do
      let closed ← closeAt? dump offset current
      let later ← sliceFrom? dump next (some { flavor, start := next }) rest
      return closed ++ later
    | .terminator => do
      let closed ← closeAt? dump offset current
      let later ← sliceFrom? dump next none rest
      return closed ++ later
    | .content => sliceFrom? dump next current rest

/-- The records of a dump as slices of it. -/
def sliceRecords? (dump : List Char) : Option (List RawRecord) :=
  sliceFrom? dump 0 none (pieces dump)

/-- Both forms of an open record stand for the end of the text that has been read. -/
structure OpenSlice.Tracks (read : List Char) (slice : OpenSlice) (record : OpenRecord) : Prop where
  flavor : slice.flavor = record.flavor
  body : ∃ front, read = front ++ record.pieces.reverse.flatten ∧ slice.start = octets front

theorem closeAt?_eq {dump read : List Char} {current : Option OpenSlice} {record : Option OpenRecord}
    (whole : dump = read ++ rest) (tracks : Option.Rel (OpenSlice.Tracks read) current record) :
    closeAt? dump (octets read) current = some (record.map OpenRecord.close).toList := by
  cases tracks with
  | none => rfl
  | some same =>
      obtain ⟨sameFlavor, front, rfl, started⟩ := same
      rename_i slice record
      have taken : slice? dump slice.start (octets (front ++ record.pieces.reverse.flatten)) =
          some record.pieces.reverse.flatten :=
        slice?_eq_some_iff.mpr ⟨front, rest, by rw [whole, List.append_assoc], started, rfl⟩
      rw [closeAt?, taken, sameFlavor]
      rfl

/-- A line that goes on is one more piece of the open record. -/
theorem OpenSlice.Tracks.cons {read : List Char} {slice : OpenSlice} {record : OpenRecord}
    (tracks : slice.Tracks read record) :
    slice.Tracks (read ++ piece) { record with pieces := piece :: record.pieces } := by
  obtain ⟨sameFlavor, front, rfl, started⟩ := tracks
  exact ⟨sameFlavor, front, by simp, started⟩

theorem sliceFrom?_eq {dump read : List Char} {current : Option OpenSlice}
    {record : Option OpenRecord} (whole : dump = read ++ lines.flatten)
    (tracks : Option.Rel (OpenSlice.Tracks read) current record) :
    sliceFrom? dump (octets read) current lines = some (recordsFrom record lines) := by
  induction lines generalizing read current record with
  | nil =>
      obtain rfl : dump = read := whole.trans (List.append_nil read)
      exact closeAt?_eq (List.append_nil dump).symm tracks
  | cons piece lines inductionHypothesis =>
      have behind : dump = read ++ piece ++ lines.flatten := by
        rw [whole, List.flatten_cons, List.append_assoc]
      rw [sliceFrom?, recordsFrom, ← octets_append]
      cases lineRole (dropLineEnd piece) with
      | header flavor =>
          have opened : OpenSlice.Tracks (read ++ piece)
              { flavor, start := octets (read ++ piece) } { flavor, pieces := [] } :=
            ⟨rfl, read ++ piece, (List.append_nil _).symm, rfl⟩
          simp only [closeAt?_eq whole tracks, inductionHypothesis behind (.some opened)]
          rfl
      | terminator =>
          simp only [closeAt?_eq whole tracks, inductionHypothesis behind .none]
          rfl
      | content =>
          refine inductionHypothesis behind ?_
          cases tracks with
          | none => exact .none
          | some same => exact .some same.cons

theorem sliceRecords?_eq {dump : List Char} : sliceRecords? dump = some (rawRecords dump) := by
  have whole : dump = [] ++ (pieces dump).flatten := flatten_pieces.symm
  exact sliceFrom?_eq whole .none

/-- The records of a dump are those of its extents. Cut into lines, the dump has one extent for each
header line of a record and no other, one extent is over before the next one starts, and the records
are theirs in this order. Read as slices between offsets the records are the same, and no slice
fails. -/
theorem rawRecords_are_extents (dump : List Char) :
    (pieces dump).flatten = dump ∧
      (∀ front line back, pieces dump = front ++ line :: back → IsLine line back) ∧
      ∃ extents : List Extent,
        (∀ extent, extent ∈ extents ↔ extent.LiesIn (pieces dump)) ∧
        (∀ front line back, pieces dump = front ++ line :: back → RecordLine line →
          ∃ extent ∈ extents, extent.before = front ∧ extent.header = line) ∧
        extents.Pairwise Extent.Precedes ∧
        List.Forall₂ Extent.Gives extents (rawRecords dump) ∧
        sliceRecords? dump = some (rawRecords dump) := by
  refine ⟨flatten_pieces, fun front line back => isLine_pieces, extents dump, fun _ => mem_extents, ?_,
    pairwise_extentsFrom, extentsFrom_gives, sliceRecords?_eq⟩
  intro front line back split opens
  refine ⟨extentAt front line back, mem_extents.mpr ?_, rfl, rfl⟩
  rw [split]
  exact extentAt_liesIn opens

end Dump

end DeadSymbols
