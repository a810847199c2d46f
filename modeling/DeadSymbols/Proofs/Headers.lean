import DeadSymbols.Proofs.Joined

/-!
Contract: where the section headers of a text stand.

`HeaderAt` says that a header stands at a place: it starts a line, it is written in the form of a
header, and it ends its line. The names between its parentheses may hold line ends, so a header can
run over many lines. No header starts on one of its further lines all the same: what is left of its
names from there on ends in a comma or a closing parenthesis, and a header opens a parenthesis before
it has either. Two headers of one text are therefore the same or apart.

Owns: `HeaderAt`, its agreement with the reader of headers, headers that do not overlap.
Does not own: the cut of a text at its headers (`Proofs.Layout`).
-/

namespace DeadSymbols

namespace Text

/-- A text that is cut behind a newline is not cut inside a word without newline. -/
theorem Closed.cut_behind_word {word rest front back : List Char} (closed : Closed front)
    (single : '\n' ∉ word) (same : word ++ rest = front ++ back) :
    ∃ inner, Closed inner ∧ rest = inner ++ back := by
  rcases List.append_eq_append_iff.mp same with ⟨inner, rfl, whole⟩ | ⟨others, rfl, _⟩
  · exact ⟨inner, closed.after_word single, whole⟩
  · exact absurd (List.mem_append_left others closed.mem) single

end Text

namespace Dump

open DeadSymbols.Text

variable {text before after rest more : List Char} {header : Header} {lineStart : Bool}

/-! ### Headers at places -/

/-- A place at which a line starts: behind a newline, or at the start of a text that starts a
line. -/
def StartsLine (lineStart : Bool) (before : List Char) : Prop :=
  (before = [] ∧ lineStart = true) ∨ Closed before

/-- A header stands between two parts of a text. -/
structure HeaderAt (lineStart : Bool) (text before : List Char) (header : Header)
    (after : List Char) : Prop where
  whole : text = before ++ (header.text ++ after)
  startsLine : StartsLine lineStart before
  written : header.Written
  endsLine : EndsLine after

/-- Behind a part of the text a line starts where it does in the text that is left. -/
theorem startsLine_append {inner : Bool} {front : List Char}
    (leads : inner = true ↔ StartsLine lineStart front) :
    StartsLine lineStart (front ++ before) ↔ StartsLine inner before := by
  cases before with
  | nil => simp [StartsLine, leads, Closed]
  | cons c more =>
      have joined : Closed (front ++ c :: more) ↔ Closed (c :: more) := by
        rw [Closed, List.getLast?_append_of_ne_nil front (List.cons_ne_nil c more), Closed]
      simp [StartsLine, joined]

theorem headerAt_append {inner : Bool} {front : List Char}
    (leads : inner = true ↔ StartsLine lineStart front) :
    HeaderAt lineStart (front ++ text) (front ++ before) header after ↔
      HeaderAt inner text before header after := by
  constructor
  · rintro ⟨whole, startsLine, written, endsLine⟩
    rw [List.append_assoc] at whole
    exact ⟨List.append_cancel_left whole, (startsLine_append leads).mp startsLine, written, endsLine⟩
  · rintro ⟨rfl, startsLine, written, endsLine⟩
    exact ⟨(List.append_assoc ..).symm, (startsLine_append leads).mpr startsLine, written, endsLine⟩

theorem headerAt_nil_iff :
    HeaderAt lineStart text [] header rest ↔ headerAt? lineStart text = some (header, rest) := by
  cases lineStart with
  | false =>
      refine iff_of_false ?_ (Option.some_ne_none _).symm
      rintro ⟨_, startsLine | closed, _⟩
      · exact Bool.false_ne_true startsLine.2
      · exact closed.ne_nil rfl
  | true =>
      rw [show headerAt? true text = header? text from rfl, header?_eq_some_iff]
      constructor
      · intro stands
        exact ⟨stands.whole, stands.written, stands.endsLine⟩
      · rintro ⟨whole, written, endsLine⟩
        exact ⟨whole, Or.inl ⟨rfl, rfl⟩, written, endsLine⟩

/-! ### The lines of a header -/

/-- The text goes on with a comma or a closing parenthesis, once the characters that names may have
are over. -/
def LeavesNames (text : List Char) : Prop :=
  ∃ c ∈ (text.dropWhile isNameChar).head?, c = ',' ∨ c = ')'

/-- A text is cut behind a newline: either inside a name, and then the name goes on until the
character behind it, or further on. -/
theorem cut_in_name {name rest front back : List Char} {c : Char}
    (names : ∀ d ∈ name, isNameChar d = true) (stops : isNameChar c = false) (inLine : c ≠ '\n')
    (closed : Closed front) (same : name ++ c :: rest = front ++ back) :
    (∀ after, ((back ++ after).dropWhile isNameChar).head? = some c) ∨
      ∃ inner, Closed inner ∧ rest = inner ++ back := by
  rcases List.append_eq_append_iff.mp same with ⟨inner, rfl, behind⟩ | ⟨others, rfl, rfl⟩
  · cases inner with
    | nil =>
        left
        intro after
        rw [show back = c :: rest from behind.symm, List.cons_append,
          dropWhile_of_stops (stops_cons.mpr stops), List.head?_cons]
    | cons d inner =>
        obtain ⟨rfl, rfl⟩ := List.cons.inj behind
        have inside : Closed ([c] ++ inner) := closed.of_append (List.cons_ne_nil c inner)
        exact Or.inr ⟨inner, inside.after_word (by simpa using inLine.symm), rfl⟩
  · left
    intro after
    have named : ∀ d ∈ others, isNameChar d = true :=
      fun d member => names d (List.mem_append_right front member)
    rw [List.append_assoc, List.cons_append, dropWhile_append_stops named (stops_cons.mpr stops),
      List.head?_cons]

/-- The further lines of a header start inside one of its names. -/
theorem Header.Written.leavesNames {front back : List Char} (written : header.Written)
    (split : header.text = front ++ back) (closed : Closed front) : LeavesNames (back ++ after) := by
  obtain ⟨indent, tail, whole, indented, isSegment, isName, single⟩ := written
  rw [whole, ← List.append_assoc] at split
  obtain ⟨inner, innerClosed, fromSegment⟩ :=
    closed.cut_behind_word (newline_not_mem_opening indented) split
  rcases cut_in_name isSegment.2 (by decide) (by decide) innerClosed fromSegment with comma | deeper
  · exact ⟨',', comma after, Or.inl rfl⟩
  · obtain ⟨deeper, deeperClosed, fromName⟩ := deeper
    rcases cut_in_name isName.2 (by decide) (by decide) deeperClosed fromName with bracket | beyond
    · exact ⟨')', bracket after, Or.inr rfl⟩
    · obtain ⟨beyond, beyondClosed, fromTail⟩ := beyond
      have inTail : '\n' ∈ " section".toList ++ tail := by
        have whole : " section".toList ++ tail = beyond ++ back := fromTail
        rw [whole]
        exact List.mem_append_left back beyondClosed.mem
      rcases List.mem_append.mp inTail with inWord | inRest
      · exact absurd inWord (by decide)
      · exact absurd inRest single

/-- A text that opens a parenthesis first does not start on a further line of a header. -/
theorem not_leavesNames_of_barrier (barrier : Barrier text) : ¬ LeavesNames text := by
  rintro ⟨c, member, closing⟩
  rw [barrier c member] at closing
  exact absurd closing (by decide)

/-! ### Two headers -/

theorem HeaderAt.header? (stands : HeaderAt lineStart text before header after) :
    header? (header.text ++ after) = some (header, after) :=
  header?_eq_some_iff.mpr ⟨rfl, stands.written, stands.endsLine⟩

/-- Of two headers in a text the second is the first one or stands behind it. -/
theorem HeaderAt.apart_of_le {otherBefore otherAfter : List Char} {other : Header}
    (first : HeaderAt lineStart text before header after)
    (second : HeaderAt lineStart text otherBefore other otherAfter)
    (order : before <+: otherBefore) :
    (before = otherBefore ∧ header = other ∧ after = otherAfter) ∨
      before ++ header.text <+: otherBefore := by
  obtain ⟨gap, rfl⟩ := order
  have same : header.text ++ after = gap ++ (other.text ++ otherAfter) := by
    have whole := first.whole.symm.trans second.whole
    rw [List.append_assoc] at whole
    exact List.append_cancel_left whole
  cases gap with
  | nil =>
      left
      have found := first.header?
      rw [same, List.nil_append, second.header?] at found
      obtain ⟨rfl, rfl⟩ := Prod.mk.inj (Option.some.inj found)
      exact ⟨(List.append_nil before).symm, rfl, rfl⟩
  | cons c gap =>
      right
      rcases List.append_eq_append_iff.mp same with ⟨behind, gapEq, _⟩ | ⟨inside, split, behind⟩
      · rw [gapEq, ← List.append_assoc]
        exact List.prefix_append _ _
      · exfalso
        have closed : Closed (c :: gap) := by
          rcases second.startsLine with ⟨empty, _⟩ | closed
          · exact absurd empty (by simp)
          · exact closed.of_append (List.cons_ne_nil c gap)
        have leaves : LeavesNames (inside ++ after) := first.written.leavesNames split closed
        rw [← behind] at leaves
        have barrier : Barrier (other.text ++ otherAfter ++ []) := barrier_of_header second.header?
        rw [List.append_nil] at barrier
        exact not_leavesNames_of_barrier barrier leaves

/-- A line does not start behind a header. -/
theorem HeaderAt.not_startsLine (stands : HeaderAt lineStart text before header after) :
    ¬ StartsLine lineStart (before ++ header.text) := by
  rintro (⟨empty, _⟩ | closed)
  · exact stands.written.ne_nil (List.append_eq_nil_iff.mp empty).2
  · exact stands.written.not_closed (closed.of_append stands.written.ne_nil)

/-- Behind a header the text that is left has the further ones. -/
theorem HeaderAt.behind_iff {between otherAfter : List Char} {other : Header}
    (stands : HeaderAt lineStart text before header after) :
    HeaderAt lineStart text (before ++ header.text ++ between) other otherAfter ↔
      HeaderAt false after between other otherAfter := by
  have leads : false = true ↔ StartsLine lineStart (before ++ header.text) :=
    iff_of_false Bool.false_ne_true stands.not_startsLine
  rw [stands.whole, ← List.append_assoc, headerAt_append leads]

/-- Two headers of a text are the same or do not overlap. -/
theorem HeaderAt.apart {otherBefore otherAfter : List Char} {other : Header}
    (first : HeaderAt lineStart text before header after)
    (second : HeaderAt lineStart text otherBefore other otherAfter) :
    (before = otherBefore ∧ header = other ∧ after = otherAfter) ∨
      before ++ header.text <+: otherBefore ∨ otherBefore ++ other.text <+: before := by
  have inText : before <+: text := first.whole ▸ List.prefix_append _ _
  have otherInText : otherBefore <+: text := second.whole ▸ List.prefix_append _ _
  rcases List.prefix_or_prefix_of_prefix inText otherInText with order | order
  · exact (first.apart_of_le second order).imp_right Or.inl
  · rcases second.apart_of_le first order with ⟨rfl, rfl, rfl⟩ | behind
    · exact Or.inl ⟨rfl, rfl, rfl⟩
    · exact Or.inr (Or.inr behind)

end Dump

end DeadSymbols
