import DeadSymbols.Json.Scalar
import DeadSymbols.Json.Value
import Mathlib.Data.List.Forall2
import Mathlib.Data.Nat.Digits.Defs

/-!
Contract: the texts that spell a string.

A character inside a string is spelled by itself, by a backslash and a letter, or by its code units in
UTF-16, each with four hexadecimal digits. Quotes, backslashes and control characters cannot stand for
themselves, and half of a surrogate pair spells nothing, since no character has it as its only code
unit. The reader of strings accepts exactly these texts.

Owns: the grammar of strings, and the reader's agreement with it.
-/

namespace DeadSymbols.Json

variable {text rest : List Char}

/-! ### Characters and strings -/

/-- The letters behind a backslash, and the characters that they stand for. -/
def escapeLetters : List (Char × Char) :=
  [('"', '"'), ('\\', '\\'), ('/', '/'), ('b', '\x08'), ('f', '\x0c'), ('n', '\n'), ('r', '\r'),
   ('t', '\t')]

/-- The code units of a character in UTF-16. -/
def utf16 (c : Char) : List Nat :=
  if c.toNat < 0x10000 then [c.toNat]
  else [0xD800 + (c.toNat - 0x10000) / 0x400, 0xDC00 + (c.toNat - 0x10000) % 0x400]

/-- A hexadecimal digit in either case. -/
def HexDigit (value : Nat) (digit : Char) : Prop :=
  value < 16 ∧ (digit = hexDigit value ∨ digit = (hexDigit value).toUpper)

/-- Four hexadecimal digits that spell a code unit. -/
def UnitText (unit : Nat) (digits : List Char) : Prop :=
  ∃ first second third fourth,
    List.Forall₂ HexDigit [first, second, third, fourth] digits ∧
      unit = Nat.ofDigits 16 [fourth, third, second, first]

/-- The text spells the character inside a string. -/
inductive CharText : Char → List Char → Prop where
  | plain {c : Char} (noQuote : c ≠ '"') (noBackslash : c ≠ '\\') (noControl : 0x20 ≤ c.toNat) :
      CharText c [c]
  | letter {letter c : Char} (listed : (letter, c) ∈ escapeLetters) : CharText c ['\\', letter]
  | units {c : Char} {codes : List (List Char)} (spelled : List.Forall₂ UnitText (utf16 c) codes) :
      CharText c (codes.flatMap fun digits => '\\' :: 'u' :: digits)

/-- The text spells the characters, one after another. -/
inductive CharsText : List Char → List Char → Prop where
  | nil : CharsText [] []
  | cons {c : Char} {cs text rest : List Char} (here : CharText c text) (later : CharsText cs rest) :
      CharsText (c :: cs) (text ++ rest)

/-- The text spells the string. -/
def StringText (value : String) (text : List Char) : Prop :=
  ∃ inside, CharsText value.toList inside ∧ text = '"' :: (inside ++ ['"'])

/-! ### Escapes -/

theorem mem_escapeLetters_iff {letter c : Char} :
    (letter, c) ∈ escapeLetters ↔ escapeLetter? letter = some c := by
  unfold escapeLetter?
  split <;> simp_all [escapeLetters, eq_comm]

theorem hexDigit?_eq_some_iff {digit : Char} {value : Nat} :
    hexDigit? digit = some value ↔ HexDigit value digit := by
  constructor
  · intro found
    have decimal : ∀ value < 10, (hexDigit value).toNat = value + 48 := by decide
    have lower : ∀ value < 16, 10 ≤ value → (hexDigit value).toNat = value + 87 := by decide
    have upper : ∀ value < 16, 10 ≤ value → (hexDigit value).toUpper.toNat = value + 55 := by decide
    have zero : '0'.toNat = 48 := rfl
    have nine : '9'.toNat = 57 := rfl
    have lowerA : 'a'.toNat = 97 := rfl
    have lowerF : 'f'.toNat = 102 := rfl
    have upperA : 'A'.toNat = 65 := rfl
    have upperF : 'F'.toNat = 70 := rfl
    simp only [hexDigit?, Bool.and_eq_true, decide_eq_true_eq, Char.le_def,
      UInt32.le_iff_toNat_le, Char.toNat_val] at found
    split_ifs at found with isDecimal isLower isUpper
    · have code := Option.some.inj found
      refine ⟨by omega, Or.inl (Char.toNat_inj.mp ?_)⟩
      rw [decimal value (by omega)]
      omega
    · have code := Option.some.inj found
      refine ⟨by omega, Or.inl (Char.toNat_inj.mp ?_)⟩
      rw [lower value (by omega) (by omega)]
      omega
    · have code := Option.some.inj found
      refine ⟨by omega, Or.inr (Char.toNat_inj.mp ?_)⟩
      rw [upper value (by omega) (by omega)]
      omega
  · intro isDigit
    have lower : ∀ value < 16, hexDigit? (hexDigit value) = some value := by decide
    have upper : ∀ value < 16, hexDigit? (hexDigit value).toUpper = some value := by decide
    obtain ⟨small, rfl | rfl⟩ := isDigit
    · exact lower value small
    · exact upper value small

theorem ofDigits_unit (first second third fourth : Nat) :
    Nat.ofDigits 16 [fourth, third, second, first] =
      ((first * 16 + second) * 16 + third) * 16 + fourth := by
  simp only [Nat.ofDigits_cons, Nat.ofDigits_nil]
  omega

theorem hexNumber?_eq_some_iff {a b c d : Char} {unit : Nat} :
    hexNumber? a b c d = some unit ↔ UnitText unit [a, b, c, d] := by
  simp only [hexNumber?, bind, Option.bind_eq_some_iff, pure, Option.some.injEq,
    hexDigit?_eq_some_iff, UnitText, List.forall₂_cons, List.forall₂_nil_right_iff, and_true,
    ofDigits_unit]
  constructor
  · intro found
    obtain ⟨first, isFirst, second, isSecond, third, isThird, fourth, isFourth, rfl⟩ := found
    exact ⟨first, second, third, fourth, ⟨isFirst, isSecond, isThird, isFourth⟩, rfl⟩
  · intro spelled
    obtain ⟨first, second, third, fourth, ⟨isFirst, isSecond, isThird, isFourth⟩, rfl⟩ := spelled
    exact ⟨first, isFirst, second, isSecond, third, isThird, fourth, isFourth, rfl⟩

theorem hexNumber?_lt {a b c d : Char} {unit : Nat} (found : hexNumber? a b c d = some unit) :
    unit < 0x10000 := by
  obtain ⟨first, second, third, fourth, digits, rfl⟩ := hexNumber?_eq_some_iff.mp found
  simp only [List.forall₂_cons] at digits
  obtain ⟨⟨firstSmall, _⟩, ⟨secondSmall, _⟩, ⟨thirdSmall, _⟩, ⟨fourthSmall, _⟩, _⟩ := digits
  rw [ofDigits_unit]
  omega

theorem UnitText.exists_digits {unit : Nat} {digits : List Char} (spelled : UnitText unit digits) :
    ∃ a b c d, digits = [a, b, c, d] ∧ hexNumber? a b c d = some unit := by
  obtain ⟨first, second, third, fourth, isDigits, _⟩ := id spelled
  obtain _ | ⟨_, _ | ⟨_, _ | ⟨_, _ | ⟨_, _ | _⟩⟩⟩⟩ := isDigits
  exact ⟨_, _, _, _, rfl, hexNumber?_eq_some_iff.mpr spelled⟩

/-! ### Code units -/

theorem utf16_ofNat {unit : Nat} (small : unit < 0x10000) (notLow : ¬ isLowSurrogate unit = true)
    (notHigh : ¬ isHighSurrogate unit = true) : utf16 (Char.ofNat unit) = [unit] := by
  simp only [isLowSurrogate, isHighSurrogate, Bool.and_eq_true, decide_eq_true_eq] at notLow notHigh
  have valid : unit.isValidChar := by
    unfold Nat.isValidChar
    omega
  have code : (Char.ofNat unit).toNat = unit := by
    rw [Char.ofNat, dif_pos valid]
    rfl
  rw [utf16, code, if_pos small]

theorem utf16_pairedChar {high low : Nat} (isHigh : isHighSurrogate high = true)
    (isLow : isLowSurrogate low = true) : utf16 (pairedChar high low) = [high, low] := by
  simp only [isLowSurrogate, isHighSurrogate, Bool.and_eq_true, decide_eq_true_eq] at isHigh isLow
  have valid : (0x10000 + (high - 0xD800) * 0x400 + (low - 0xDC00)).isValidChar := by
    unfold Nat.isValidChar
    omega
  have code : (pairedChar high low).toNat = 0x10000 + (high - 0xD800) * 0x400 + (low - 0xDC00) := by
    rw [pairedChar, Char.ofNat, dif_pos valid]
    rfl
  have first : 0xD800 + ((pairedChar high low).toNat - 0x10000) / 0x400 = high := by omega
  have second : 0xDC00 + ((pairedChar high low).toNat - 0x10000) % 0x400 = low := by omega
  rw [utf16, if_neg (by omega), first, second]

/-- A character has one code unit, which is no half of a pair, or it is the character of a pair. -/
theorem utf16_cases (c : Char) :
    (utf16 c = [c.toNat] ∧ isLowSurrogate c.toNat = false ∧ isHighSurrogate c.toNat = false) ∨
      ∃ high low, utf16 c = [high, low] ∧ isLowSurrogate high = false ∧
        isHighSurrogate high = true ∧ isLowSurrogate low = true ∧ pairedChar high low = c := by
  have valid : c.toNat < 0xD800 ∨ 0xDFFF < c.toNat ∧ c.toNat < 0x110000 := c.valid
  simp only [isLowSurrogate, isHighSurrogate, Bool.and_eq_true, Bool.and_eq_false_iff,
    decide_eq_true_eq, decide_eq_false_iff_not]
  by_cases small : c.toNat < 0x10000
  · left
    exact ⟨by rw [utf16, if_pos small], by omega, by omega⟩
  · right
    refine ⟨0xD800 + (c.toNat - 0x10000) / 0x400, 0xDC00 + (c.toNat - 0x10000) % 0x400,
      by rw [utf16, if_neg small], by omega, by omega, by omega, ?_⟩
    have code : 0x10000 + (0xD800 + (c.toNat - 0x10000) / 0x400 - 0xD800) * 0x400 +
        (0xDC00 + (c.toNat - 0x10000) % 0x400 - 0xDC00) = c.toNat := by omega
    rw [pairedChar, code, Char.ofNat_toNat]

/-! ### Reading -/

theorem withChar_eq_ok_iff {c : Char} {read : Except Problem (List Char × List Char)}
    {cs : List Char} :
    withChar c read = .ok (cs, rest) ↔ ∃ more, cs = c :: more ∧ read = .ok (more, rest) := by
  cases read with
  | error problem => simp [withChar, Except.map]
  | ok found =>
      obtain ⟨more, after⟩ := found
      simp only [withChar, Except.map, Except.ok.injEq, Prod.mk.injEq]
      constructor
      · intro same
        obtain ⟨rfl, rfl⟩ := same
        exact ⟨more, rfl, rfl, rfl⟩
      · intro same
        obtain ⟨_, rfl, rfl, rfl⟩ := same
        exact ⟨rfl, rfl⟩

/-- What is read as a string is spelled character by character, up to the closing quote. -/
theorem charsText_of_readString {cs : List Char} (read : readString text = .ok (cs, rest)) :
    ∃ inside, CharsText cs inside ∧ text = inside ++ '"' :: rest := by
  fun_induction readString text generalizing cs with
  | case2 after =>
      obtain ⟨rfl, rfl⟩ := Prod.mk.inj (Except.ok.inj read)
      exact ⟨[], .nil, rfl⟩
  | case8 a b c d high foundHigh notLow isHigh e f g h after low foundLow isLow inductionHypothesis =>
      obtain ⟨more, rfl, readMore⟩ := withChar_eq_ok_iff.mp read
      obtain ⟨inside, later, rfl⟩ := inductionHypothesis readMore
      have units : List.Forall₂ UnitText (utf16 (pairedChar high low)) [[a, b, c, d], [e, f, g, h]] := by
        rw [utf16_pairedChar isHigh isLow]
        have spelledHigh := hexNumber?_eq_some_iff.mp foundHigh
        have spelledLow := hexNumber?_eq_some_iff.mp foundLow
        exact .cons spelledHigh (.cons spelledLow .nil)
      exact ⟨_, .cons (.units units) later, rfl⟩
  | case12 a b c d after unit found notLow notHigh inductionHypothesis =>
      obtain ⟨more, rfl, readMore⟩ := withChar_eq_ok_iff.mp read
      obtain ⟨inside, later, rfl⟩ := inductionHypothesis readMore
      have units : List.Forall₂ UnitText (utf16 (Char.ofNat unit)) [[a, b, c, d]] := by
        rw [utf16_ofNat (hexNumber?_lt found) notLow notHigh]
        exact .cons (hexNumber?_eq_some_iff.mp found) .nil
      exact ⟨_, .cons (.units units) later, rfl⟩
  | case15 letter after _ _ c found inductionHypothesis =>
      obtain ⟨more, rfl, readMore⟩ := withChar_eq_ok_iff.mp read
      obtain ⟨inside, later, rfl⟩ := inductionHypothesis readMore
      exact ⟨_, .cons (.letter (mem_escapeLetters_iff.mpr found)) later, rfl⟩
  | case18 c after noQuote _ _ noEnd noLetter noControl inductionHypothesis =>
      obtain ⟨more, rfl, readMore⟩ := withChar_eq_ok_iff.mp read
      obtain ⟨inside, later, rfl⟩ := inductionHypothesis readMore
      have noBackslash : c ≠ '\\' := by
        intro backslash
        cases behind : inside ++ '"' :: rest with
        | nil => exact noEnd backslash behind
        | cons letter more => exact noLetter letter more backslash behind
      exact ⟨_, .cons (.plain noQuote noBackslash (Nat.le_of_not_lt noControl)) later, rfl⟩
  -- In all other cases the reader has a problem.
  | _ => cases read

theorem readString_charText {c : Char} {piece : List Char} (spelled : CharText c piece)
    (rest : List Char) : readString (piece ++ rest) = withChar c (readString rest) := by
  cases spelled with
  | plain noQuote noBackslash noControl =>
      rw [List.singleton_append, readString, if_neg (Nat.not_lt.mpr noControl)]
      · exact noQuote
      all_goals
        intros
        exact absurd (by assumption) noBackslash
  | @letter letter _ listed =>
      have stands := mem_escapeLetters_iff.mp listed
      have notUnit : letter ≠ 'u' := by
        rintro rfl
        cases stands
      rw [List.cons_append, List.singleton_append, readString, stands]
      all_goals
        intros
        simp_all
  | units spelled =>
      rcases utf16_cases c with ⟨unit, notLow, notHigh⟩ |
        ⟨high, low, pair, notLow, isHigh, isLow, same⟩
      · rw [unit] at spelled
        obtain _ | ⟨here, _ | _⟩ := spelled
        obtain ⟨_, _, _, _, rfl, found⟩ := here.exists_digits
        simp [readString, found, notLow, notHigh]
      · rw [pair] at spelled
        obtain _ | ⟨here, _ | ⟨there, _ | _⟩⟩ := spelled
        obtain ⟨_, _, _, _, rfl, foundHigh⟩ := here.exists_digits
        obtain ⟨_, _, _, _, rfl, foundLow⟩ := there.exists_digits
        simp [readString, foundHigh, foundLow, notLow, isHigh, isLow, same]

theorem readString_charsText {cs : List Char} (spelled : CharsText cs text) (rest : List Char) :
    readString (text ++ '"' :: rest) = .ok (cs, rest) := by
  induction spelled with
  | nil => rfl
  | cons here later inductionHypothesis =>
      rw [List.append_assoc, readString_charText here, inductionHypothesis]
      rfl

/-- A string is read exactly from its texts, up to the closing quote. -/
theorem readString_eq_ok_iff {cs : List Char} :
    readString text = .ok (cs, rest) ↔
      ∃ inside, CharsText cs inside ∧ text = inside ++ '"' :: rest := by
  constructor
  · exact charsText_of_readString
  · intro spelled
    obtain ⟨inside, isChars, rfl⟩ := spelled
    exact readString_charsText isChars rest

end DeadSymbols.Json
