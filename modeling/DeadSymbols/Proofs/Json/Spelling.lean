import DeadSymbols.Json.Decoder
import DeadSymbols.Proofs.Json.Strings
import DeadSymbols.Proofs.Scan

/-!
Contract: the texts that spell a JSON value.

A value has many texts, which differ in the white space between their tokens. Strings and numbers are
spelled in one way only, the one in which they are written. The written form of a value is one of its
texts. What a text starts with tells what kind of value it spells, and a string that has been
written is read back whatever its characters are.

Owns: `Gap`, `Spells`, how texts start, `Delimited` (what may follow them), reading written strings.
Does not own: decoders (`Proofs.Json.Reading`).
-/

namespace DeadSymbols.Json

open DeadSymbols.Text

variable {gap rest text : List Char}

/-! ### White space -/

/-- White space between tokens, or nothing. -/
def Gap (cs : List Char) : Prop := ∀ c ∈ cs, isGap c = true

theorem gap_nil : Gap [] := fun _ member => absurd member List.not_mem_nil

theorem skipGap_append (blank : Gap gap) (stops : Stops isGap rest) : skipGap (gap ++ rest) = rest :=
  dropWhile_append_stops blank stops

/-! ### Texts of values -/

/-- What stands before an element or a member: white space, and a comma unless it is the first. -/
def Lead (first : Bool) (lead : List Char) : Prop :=
  if first then Gap lead
  else ∃ before after, Gap before ∧ Gap after ∧ lead = before ++ ',' :: after

mutual

/-- The text spells the value. -/
inductive Spells : Value → List Char → Prop where
  | null : Spells .null "null".toList
  | boolean (value : Bool) : Spells (.boolean value) (Value.boolean value).compact
  | number (value : Int) : Spells (.number value) (writeNumber value)
  | string (value : String) : Spells (.string value) (writeString value)
  | array {elements : List Value} {text : List Char} (inside : SpellsElements true elements text) :
      Spells (.array elements) ('[' :: text)
  | object {members : List (String × Value)} {text : List Char}
      (inside : SpellsMembers true members text) :
      Spells (.object members) ('\x7b' :: text)

/-- The text spells the elements of a list that are left, and the closing bracket. -/
inductive SpellsElements : Bool → List Value → List Char → Prop where
  | close {first : Bool} {gap : List Char} (blank : Gap gap) :
      SpellsElements first [] (gap ++ [']'])
  | next {first : Bool} {lead text rest : List Char} {head : Value} {tail : List Value}
      (leads : Lead first lead) (here : Spells head text) (later : SpellsElements false tail rest) :
      SpellsElements first (head :: tail) (lead ++ (text ++ rest))

/-- The text spells the members of an object that are left, and the closing brace. -/
inductive SpellsMembers : Bool → List (String × Value) → List Char → Prop where
  | close {first : Bool} {gap : List Char} (blank : Gap gap) :
      SpellsMembers first [] (gap ++ ['\x7d'])
  | next {first : Bool} {lead before after text rest : List Char} {value : Value}
      {tail : List (String × Value)} (key : String) (leads : Lead first lead)
      (blankBefore : Gap before) (blankAfter : Gap after) (here : Spells value text)
      (later : SpellsMembers false tail rest) :
      SpellsMembers first ((key, value) :: tail)
        (lead ++ (writeString key ++ (before ++ ':' :: (after ++ (text ++ rest)))))

end

theorem lead_nil : Lead true [] := gap_nil

theorem lead_comma : Lead false [','] := ⟨[], [], gap_nil, gap_nil, rfl⟩

mutual

/-- The written form of a value spells it. -/
theorem spells_compact : ∀ value : Value, Spells value value.compact
  | .null => .null
  | .boolean value => .boolean value
  | .number value => .number value
  | .string value => .string value
  | .array [] => .array (.close gap_nil)
  | .array (head :: tail) => by
      rw [Value.compact]
      exact .array (.next lead_nil (spells_compact head) (spells_compactElements tail))
  | .object [] => .object (.close gap_nil)
  | .object ((key, value) :: tail) => by
      rw [Value.compact]
      have inside := SpellsMembers.next key lead_nil gap_nil gap_nil (spells_compact value)
        (spells_compactMembers tail)
      simpa using Spells.object inside

theorem spells_compactElements : ∀ elements : List Value,
    SpellsElements false elements (compactElements elements)
  | [] => .close gap_nil
  | head :: tail => by
      rw [compactElements]
      exact .next lead_comma (spells_compact head) (spells_compactElements tail)

theorem spells_compactMembers : ∀ members : List (String × Value),
    SpellsMembers false members (compactMembers members)
  | [] => .close gap_nil
  | (key, value) :: tail => by
      rw [compactMembers]
      have inside := SpellsMembers.next key lead_comma gap_nil gap_nil (spells_compact value)
        (spells_compactMembers tail)
      simpa using inside

end

theorem gap_newLine (depth : Nat) : Gap (newLine depth) := by
  intro c member
  rcases List.mem_cons.mp member with rfl | blank
  · decide
  · rw [List.eq_of_mem_replicate blank]
    decide

theorem lead_newLine (depth : Nat) : Lead true (newLine depth) := gap_newLine depth

theorem lead_commaLine (depth : Nat) : Lead false (',' :: newLine depth) :=
  ⟨[], newLine depth, gap_nil, gap_newLine depth, rfl⟩

theorem gap_blank : Gap " ".toList := by
  intro c member
  rw [List.mem_singleton.mp member]
  decide

mutual

/-- So does the form with a line for each element and each member. -/
theorem spells_prettyAt : ∀ (depth : Nat) (value : Value), Spells value (value.prettyAt depth)
  | _, .null => .null
  | _, .boolean value => .boolean value
  | _, .number value => .number value
  | _, .string value => .string value
  | _, .array [] => .array (.close gap_nil)
  | depth, .array (head :: tail) => by
      rw [Value.prettyAt]
      have inside := SpellsElements.next (lead_newLine (depth + 1)) (spells_prettyAt (depth + 1) head)
        (spells_prettyElements depth tail)
      simpa using Spells.array inside
  | _, .object [] => .object (.close gap_nil)
  | depth, .object ((key, value) :: tail) => by
      rw [Value.prettyAt]
      have inside := SpellsMembers.next key (lead_newLine (depth + 1)) gap_nil gap_blank
        (spells_prettyAt (depth + 1) value) (spells_prettyMembers depth tail)
      simpa using Spells.object inside

theorem spells_prettyElements : ∀ (depth : Nat) (elements : List Value),
    SpellsElements false elements (prettyElements depth elements)
  | depth, [] => .close (gap_newLine depth)
  | depth, head :: tail => by
      rw [prettyElements]
      have inside := SpellsElements.next (lead_commaLine (depth + 1))
        (spells_prettyAt (depth + 1) head) (spells_prettyElements depth tail)
      simpa using inside

theorem spells_prettyMembers : ∀ (depth : Nat) (members : List (String × Value)),
    SpellsMembers false members (prettyMembers depth members)
  | depth, [] => .close (gap_newLine depth)
  | depth, (key, value) :: tail => by
      rw [prettyMembers]
      have inside := SpellsMembers.next key (lead_commaLine (depth + 1)) gap_nil gap_blank
        (spells_prettyAt (depth + 1) value) (spells_prettyMembers depth tail)
      simpa using inside

end

theorem spells_pretty (value : Value) : Spells value value.pretty := spells_prettyAt 0 value

/-! ### How texts start -/

/-- The characters that stand between values: white space, commas and closing brackets. -/
def isSeparator (c : Char) : Bool := isGap c || c = ',' || c = ']' || c = '\x7d'

theorem isSeparator_eq_false_of_isDigit {c : Char} (isDigit : c.isDigit = true) :
    isSeparator c = false := by
  rw [← Bool.not_eq_true]
  intro separates
  simp only [isSeparator, isGap, Bool.or_eq_true, decide_eq_true_eq] at separates
  rcases separates with (((((rfl | rfl) | rfl) | rfl) | rfl) | rfl) | rfl <;>
    exact absurd isDigit (by decide)

theorem toDigits_head (n : Nat) : ∃ c more, Nat.toDigits 10 n = c :: more ∧ c.isDigit = true := by
  cases digits : Nat.toDigits 10 n with
  | nil => exact absurd digits Nat.toDigits_ne_nil
  | cons c more =>
      refine ⟨c, more, rfl, ?_⟩
      exact Nat.isDigit_of_mem_toDigits (by decide) (by decide) (digits ▸ List.mem_cons_self)

/-- A text starts with a token of its own, and with the letter `n` only when it spells `null`. -/
theorem Spells.head {value : Value} (spells : Spells value text) :
    ∃ c more, text = c :: more ∧ isSeparator c = false ∧ (value ≠ .null → c ≠ 'n') := by
  cases spells with
  | null => exact ⟨'n', _, rfl, by decide, fun other => absurd rfl other⟩
  | boolean value =>
      cases value with
      | true => exact ⟨'t', _, rfl, by decide, fun _ => by decide⟩
      | false => exact ⟨'f', _, rfl, by decide, fun _ => by decide⟩
  | number value =>
      cases value with
      | ofNat n =>
          obtain ⟨c, more, digits, isDigit⟩ := toDigits_head n
          refine ⟨c, more, digits, isSeparator_eq_false_of_isDigit isDigit, ?_⟩
          rintro _ rfl
          exact absurd isDigit (by decide)
      | negSucc n => exact ⟨'-', _, rfl, by decide, fun _ => by decide⟩
  | string value => exact ⟨'"', _, rfl, by decide, fun _ => by decide⟩
  | array inside => exact ⟨'[', _, rfl, by decide, fun _ => by decide⟩
  | object inside => exact ⟨'\x7b', _, rfl, by decide, fun _ => by decide⟩

theorem isGap_eq_false_of_token {c : Char} (token : isSeparator c = false) : isGap c = false := by
  rw [isSeparator, Bool.or_eq_false_iff, Bool.or_eq_false_iff, Bool.or_eq_false_iff] at token
  exact token.1.1.1

theorem skipGap_token {c : Char} (blank : Gap gap) (token : isSeparator c = false) :
    skipGap (gap ++ c :: rest) = c :: rest :=
  skipGap_append blank (stops_cons.mpr (isGap_eq_false_of_token token))

/-- What may follow a value: nothing, or one of the characters that stand between values. -/
def Delimited (rest : List Char) : Prop := ∀ c ∈ rest.head?, isSeparator c = true

theorem delimited_cons {c : Char} : Delimited (c :: rest) ↔ isSeparator c = true := by
  simp [Delimited]

theorem isSeparator_of_isGap {c : Char} (blank : isGap c = true) : isSeparator c = true := by
  simp [isSeparator, blank]

/-- White space delimits a value, and so does what delimits it without white space. -/
theorem delimited_gap {tail : List Char} (blank : Gap gap) (delimited : Delimited tail) :
    Delimited (gap ++ tail) := by
  cases gap with
  | nil => exact delimited
  | cons c more => exact delimited_cons.mpr (isSeparator_of_isGap (blank c List.mem_cons_self))

theorem delimited_lead {lead tail : List Char} (leads : Lead false lead) :
    Delimited (lead ++ tail) := by
  obtain ⟨before, after, blank, _, rfl⟩ := leads
  rw [List.append_assoc]
  exact delimited_gap blank (delimited_cons.mpr (by decide))

theorem SpellsElements.delimited {elements : List Value} (spells : SpellsElements false elements text)
    (tail : List Char) : Delimited (text ++ tail) := by
  cases spells with
  | close blank =>
      rw [List.append_assoc]
      exact delimited_gap blank (delimited_cons.mpr (by decide))
  | next leads here later =>
      rw [List.append_assoc]
      exact delimited_lead leads

theorem SpellsMembers.delimited {members : List (String × Value)}
    (spells : SpellsMembers false members text) (tail : List Char) : Delimited (text ++ tail) := by
  cases spells with
  | close blank =>
      rw [List.append_assoc]
      exact delimited_gap blank (delimited_cons.mpr (by decide))
  | next key leads blankBefore blankAfter here later =>
      rw [List.append_assoc]
      exact delimited_lead leads

/-! ### Written strings -/

theorem hexNumber?_hexDigit :
    ∀ n < 0x20, hexNumber? '0' '0' (hexDigit (n / 16)) (hexDigit (n % 16)) = some n := by
  decide

/-- A character is written as a backslash and a letter, as a number, or as it is. -/
theorem escapeChar_cases (c : Char) :
    (∃ letter, letter ≠ 'u' ∧ escapeLetter? letter = some c ∧ escapeChar c = ['\\', letter]) ∨
      (c.toNat < 0x20 ∧ escapeChar c =
        ['\\', 'u', '0', '0', hexDigit (c.toNat / 16), hexDigit (c.toNat % 16)]) ∨
      (c ≠ '"' ∧ c ≠ '\\' ∧ ¬ c.toNat < 0x20 ∧ escapeChar c = [c]) := by
  unfold escapeChar
  split_ifs with quote backslash backspace formFeed lineFeed carriageReturn tab control
  · exact Or.inl ⟨'"', by decide, congrArg some quote.symm, rfl⟩
  · exact Or.inl ⟨'\\', by decide, congrArg some backslash.symm, rfl⟩
  · exact Or.inl ⟨'b', by decide, congrArg some backspace.symm, rfl⟩
  · exact Or.inl ⟨'f', by decide, congrArg some formFeed.symm, rfl⟩
  · exact Or.inl ⟨'n', by decide, congrArg some lineFeed.symm, rfl⟩
  · exact Or.inl ⟨'r', by decide, congrArg some carriageReturn.symm, rfl⟩
  · exact Or.inl ⟨'t', by decide, congrArg some tab.symm, rfl⟩
  · exact Or.inr (Or.inl ⟨control, rfl⟩)
  · exact Or.inr (Or.inr ⟨quote, backslash, control, rfl⟩)

/-- The form in which a character is written spells it. -/
theorem charText_escapeChar (c : Char) : CharText c (escapeChar c) := by
  rcases escapeChar_cases c with ⟨letter, _, stands, written⟩ | ⟨control, written⟩ |
    ⟨quote, backslash, control, written⟩
  · rw [written]
    exact .letter (mem_escapeLetters_iff.mpr stands)
  · have units : List.Forall₂ UnitText (utf16 c)
        [['0', '0', hexDigit (c.toNat / 16), hexDigit (c.toNat % 16)]] := by
      rw [utf16, if_pos (Nat.lt_trans control (by decide))]
      exact .cons (hexNumber?_eq_some_iff.mp (hexNumber?_hexDigit c.toNat control)) .nil
    rw [written]
    exact .units units
  · rw [written]
    exact .plain quote backslash (Nat.le_of_not_lt control)

theorem charsText_written (cs : List Char) : CharsText cs (cs.flatMap escapeChar) := by
  induction cs with
  | nil => exact .nil
  | cons c more inductionHypothesis => exact .cons (charText_escapeChar c) inductionHypothesis

theorem readString_written (cs rest : List Char) :
    readString (cs.flatMap escapeChar ++ '"' :: rest) = .ok (cs, rest) :=
  readString_charsText (charsText_written cs) rest

end DeadSymbols.Json
