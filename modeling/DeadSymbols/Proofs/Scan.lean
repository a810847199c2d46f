import DeadSymbols.Text.Scan
import Mathlib.Data.List.TakeWhile

/-!
Contract: what the recognisers of a dump line accept.

A recogniser succeeds exactly when the text starts with its token, and a run is taken whole: it is
not empty, all its characters are of the class, and the text after it starts with a character of
another class, if with any. Each recogniser has two laws: the equivalence, and the equation that
reads a text given as the token followed by a rest.

Owns: `Run`, `Stops`, and the laws of `after?`, `run?`, `trimStart` and the recognisers over them.
-/

namespace DeadSymbols.Text

variable {p : Char → Bool} {word text run rest indent : List Char}

/-- A run of one or more characters of a class. -/
def Run (p : Char → Bool) (cs : List Char) : Prop := cs ≠ [] ∧ ∀ c ∈ cs, p c = true

/-- A text that does not start with a character of a class. -/
def Stops (p : Char → Bool) (cs : List Char) : Prop := ∀ c ∈ cs.head?, p c = false

-- The instances go through the tests on lists: a bounded statement could also be decided by going
-- through all characters there are.
instance (cs : List Char) : Decidable (Run p cs) :=
  decidable_of_iff ((!cs.isEmpty && cs.all p) = true) (by simp [Run])

instance (cs : List Char) : Decidable (Stops p cs) :=
  decidable_of_iff (cs.head?.all (!p ·) = true) (by cases cs <;> simp [Stops])

/-- White space, or nothing. -/
def Spaces (cs : List Char) : Prop := ∀ c ∈ cs, isSpace c = true

instance (cs : List Char) : Decidable (Spaces cs) :=
  decidable_of_iff (cs.all isSpace = true) (by simp [Spaces])

/-- A character outside white space. -/
def isWordChar (c : Char) : Bool := !isSpace c

theorem stops_nil : Stops p [] := by
  intro c member
  exact nomatch member

theorem stops_cons {c : Char} : Stops p (c :: rest) ↔ p c = false := by
  simp [Stops]

/-- How a text starts is decided by a word in front. -/
theorem stops_word (leads : word ≠ [] ∧ Stops p word) : Stops p (word ++ rest) := by
  obtain ⟨c, more, rfl⟩ := List.exists_cons_of_ne_nil leads.1
  exact stops_cons.mpr (stops_cons.mp leads.2)

theorem Run.imp {q : Char → Bool} (isRun : Run p run) (inClass : ∀ c, p c = true → q c = true) :
    Run q run :=
  ⟨isRun.1, fun c member => inClass c (isRun.2 c member)⟩

/-- A text that starts with a run of one class does not start with a character of another. -/
theorem Run.stops_append {q : Char → Bool} (isRun : Run p run)
    (apart : ∀ c, p c = true → q c = false) : Stops q (run ++ rest) := by
  obtain ⟨notEmpty, inClass⟩ := isRun
  obtain ⟨c, more, rfl⟩ := List.exists_cons_of_ne_nil notEmpty
  exact stops_cons.mpr (apart c (inClass c List.mem_cons_self))

/-! ### Words and runs -/

theorem after?_eq_some_iff : after? word text = some rest ↔ text = word ++ rest := by
  induction word generalizing text with
  | nil => simp [after?]
  | cons c word inductionHypothesis =>
      cases text with
      | nil => simp [after?]
      | cons d text =>
          by_cases same : c = d
          · simp [after?, same, inductionHypothesis]
          · simp [after?, same, Ne.symm same]

@[simp] theorem after?_append : after? word (word ++ rest) = some rest :=
  after?_eq_some_iff.mpr rfl

theorem startsWith_iff : startsWith word text = true ↔ ∃ rest, text = word ++ rest := by
  simp only [startsWith, Option.isSome_iff_exists, after?_eq_some_iff]

theorem after?_eq_none (absent : startsWith word text = false) : after? word text = none := by
  rwa [startsWith, Option.isSome_eq_false_iff, Option.isNone_iff_eq_none] at absent

theorem takeWhile_of_stops (stops : Stops p rest) : rest.takeWhile p = [] := by
  cases rest with
  | nil => rfl
  | cons c more => simp [stops_cons.mp stops]

theorem dropWhile_of_stops (stops : Stops p rest) : rest.dropWhile p = rest := by
  cases rest with
  | nil => rfl
  | cons c more => simp [stops_cons.mp stops]

theorem dropWhile_append_stops (inClass : ∀ c ∈ run, p c = true) (stops : Stops p rest) :
    (run ++ rest).dropWhile p = rest := by
  rw [List.dropWhile_append_of_pos inClass, dropWhile_of_stops stops]

theorem takeWhile_append_stops (inClass : ∀ c ∈ run, p c = true) (stops : Stops p rest) :
    (run ++ rest).takeWhile p = run := by
  rw [List.takeWhile_append_of_pos inClass, takeWhile_of_stops stops, List.append_nil]

theorem stops_dropWhile : Stops p (text.dropWhile p) := by
  have boundary := List.head?_dropWhile_not p text
  intro c member
  rw [Option.mem_def.mp member] at boundary
  exact boundary

theorem run?_append (isRun : Run p run) (stops : Stops p rest) :
    run? p (run ++ rest) = some (run, rest) := by
  unfold run?
  rw [takeWhile_append_stops isRun.2 stops, dropWhile_append_stops isRun.2 stops]
  split
  · exact absurd rfl isRun.1
  · rfl

theorem run?_eq_some_iff :
    run? p text = some (run, rest) ↔ text = run ++ rest ∧ Run p run ∧ Stops p rest := by
  constructor
  · intro matched
    unfold run? at matched
    split at matched
    · exact nomatch matched
    · rename_i notEmpty
      obtain ⟨rfl, rfl⟩ := Prod.mk.inj (Option.some.inj matched)
      refine ⟨List.takeWhile_append_dropWhile.symm, ⟨notEmpty, ?_⟩, stops_dropWhile⟩
      intro c member
      exact List.mem_takeWhile_imp member
  · intro parts
    obtain ⟨rfl, isRun, stops⟩ := parts
    exact run?_append isRun stops

/-! ### White space, addresses and words -/

theorem trimStart_append (spaces : Spaces indent) (stops : Stops isSpace rest) :
    trimStart (indent ++ rest) = rest :=
  dropWhile_append_stops spaces stops

theorem trimStart_of_stops (stops : Stops isSpace rest) : trimStart rest = rest :=
  dropWhile_of_stops stops

/-- A text is its leading white space and what trimming leaves of it. -/
theorem exists_indent (text : List Char) :
    ∃ indent, text = indent ++ trimStart text ∧ Spaces indent := by
  refine ⟨text.takeWhile isSpace, List.takeWhile_append_dropWhile.symm, ?_⟩
  intro c member
  exact List.mem_takeWhile_imp member

theorem afterSpaces?_append (isRun : Run isSpace run) (stops : Stops isSpace rest) :
    afterSpaces? (run ++ rest) = some rest := by
  rw [afterSpaces?, run?_append isRun stops]
  rfl

theorem afterSpaces?_eq_some_iff :
    afterSpaces? text = some rest ↔
      ∃ run, text = run ++ rest ∧ Run isSpace run ∧ Stops isSpace rest := by
  simp only [afterSpaces?, Option.map_eq_some_iff, Prod.exists, run?_eq_some_iff]
  constructor
  · intro found
    obtain ⟨run, rest, found, rfl⟩ := found
    exact ⟨run, found⟩
  · intro spaced
    obtain ⟨run, found⟩ := spaced
    exact ⟨run, rest, found, rfl⟩

theorem afterAddress?_append (isRun : Run isHexDigit run) (stops : Stops isHexDigit rest) :
    afterAddress? ("0x".toList ++ (run ++ rest)) = some rest := by
  simp only [afterAddress?, after?_append, bind, Option.bind_some, run?_append isRun stops,
    Option.map_some]

theorem afterAddress?_eq_some_iff :
    afterAddress? text = some rest ↔
      ∃ run, text = "0x".toList ++ (run ++ rest) ∧ Run isHexDigit run ∧ Stops isHexDigit rest := by
  simp only [afterAddress?, bind, Option.bind_eq_some_iff, after?_eq_some_iff,
    Option.map_eq_some_iff, Prod.exists, run?_eq_some_iff]
  constructor
  · intro found
    obtain ⟨digits, rfl, run, rest, ⟨rfl, isRun, stops⟩, rfl⟩ := found
    exact ⟨run, rfl, isRun, stops⟩
  · intro parts
    obtain ⟨run, rfl, isRun, stops⟩ := parts
    exact ⟨run ++ rest, rfl, run, rest, ⟨rfl, isRun, stops⟩, rfl⟩

theorem word?_append (isRun : Run isWordChar run) (stops : Stops isWordChar rest) :
    word? (run ++ rest) = some (run, rest) :=
  run?_append isRun stops

theorem word?_eq_some_iff :
    word? text = some (run, rest) ↔ text = run ++ rest ∧ Run isWordChar run ∧ Stops isWordChar rest :=
  run?_eq_some_iff

/-! ### Classes of characters that exclude one another -/

theorem isWordChar_iff {c : Char} : isWordChar c = true ↔ isSpace c = false := by
  simp [isWordChar]

theorem isHexDigit_eq_false_of_isSpace {c : Char} (space : isSpace c = true) :
    isHexDigit c = false := by
  rw [← Bool.not_eq_true]
  intro digit
  -- The digits lie in three ranges of codes, and no white space has a code in them.
  simp only [isHexDigit, Bool.or_eq_true, Bool.and_eq_true, decide_eq_true_eq, Char.le_def,
    UInt32.le_iff_toNat_le] at digit
  simp only [isSpace, Char.toNat, Bool.or_eq_true, Bool.and_eq_true, decide_eq_true_eq,
    beq_iff_eq] at space
  have zero : '0'.val.toNat = 48 := rfl
  have nine : '9'.val.toNat = 57 := rfl
  have lowerA : 'a'.val.toNat = 97 := rfl
  have lowerF : 'f'.val.toNat = 102 := rfl
  have upperA : 'A'.val.toNat = 65 := rfl
  have upperF : 'F'.val.toNat = 70 := rfl
  omega

theorem isSpace_eq_false_of_isHexDigit {c : Char} (digit : isHexDigit c = true) :
    isSpace c = false := by
  rw [← Bool.not_eq_true]
  intro space
  rw [isHexDigit_eq_false_of_isSpace space] at digit
  exact nomatch digit

theorem Run.stops_hex (isRun : Run isSpace run) :
    Stops isHexDigit (run ++ rest) :=
  isRun.stops_append fun _ => isHexDigit_eq_false_of_isSpace

theorem Run.stops_space (isRun : Run isWordChar run) :
    Stops isSpace (run ++ rest) :=
  isRun.stops_append fun _ => isWordChar_iff.mp

theorem not_mem_toDigits {c : Char} (noDigit : c.isDigit = false) (n : Nat) :
    c ∉ Nat.toDigits 10 n := by
  intro member
  have digit : c.isDigit = true := Nat.isDigit_of_mem_toDigits (by decide) (by decide) member
  simp [noDigit] at digit

/-! ### Words that exclude one another -/

/-- The two words differ at a place that both reach. -/
def clash : List Char → List Char → Bool
  | c :: word, d :: other => c ≠ d || clash word other
  | _, _ => false

theorem startsWith_eq_false_of_clash {other : List Char} (apart : clash word other = true) :
    startsWith word (other ++ rest) = false := by
  induction word generalizing other with
  | nil => exact nomatch apart
  | cons c word inductionHypothesis =>
      cases other with
      | nil => exact nomatch apart
      | cons d other =>
          rw [startsWith, List.cons_append, after?]
          by_cases same : c = d
          · have later : clash word other = true := by simpa [clash, same] using apart
            rw [if_pos same]
            exact inductionHypothesis later
          · rw [if_neg same]
            rfl

/-- A text of digits and a blank does not start with a word that has another character after its
own leading digits. -/
theorem startsWith_digits_eq_false {digits : List Char} (isHex : Run isHexDigit digits)
    (apart : (word.dropWhile isHexDigit).head?.any (· ≠ ' ') = true) :
    startsWith word (digits ++ ' ' :: rest) = false := by
  rw [← Bool.not_eq_true, startsWith_iff]
  intro starts
  obtain ⟨after, whole⟩ := starts
  have blank : Stops isHexDigit (' ' :: rest) := stops_cons.mpr (by decide)
  have dropped := congrArg (List.dropWhile isHexDigit) whole
  rw [dropWhile_append_stops isHex.2 blank, List.dropWhile_append] at dropped
  cases kept : word.dropWhile isHexDigit with
  | nil =>
      rw [kept] at apart
      exact nomatch apart
  | cons c more =>
      rw [kept] at apart dropped
      exact of_decide_eq_true apart (List.cons.inj dropped).1.symm

end DeadSymbols.Text
