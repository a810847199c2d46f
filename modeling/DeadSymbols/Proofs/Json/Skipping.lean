import DeadSymbols.Proofs.Json.Reading

/-!
Contract: skipping the text of a value.

Every value can be skipped, however deep its lists and objects are nested: skipping uses up the text
of the value and stops at what follows, and the length of the text bounds the steps. A record that
meets a member which is none of its fields skips it, and its draft stays as it is.

Owns: skipping scalars and values, members that a record does not have.
-/

namespace DeadSymbols.Json

open DeadSymbols.Text

variable {gap text rest : List Char} {json : Value}

/-! ### Scalars -/

theorem skipString_escapeChar (c : Char) (rest : List Char) :
    skipString (escapeChar c ++ rest) = skipString rest := by
  rcases escapeChar_cases c with ⟨letter, notHex, stands, written⟩ | ⟨control, written⟩ |
    ⟨quote, backslash, control, written⟩
  · rw [written, List.cons_append, List.singleton_append, skipString, stands]
    · rfl
    all_goals
      intros
      simp_all
  · simp [written, skipString, hexNumber?_hexDigit c.toNat control]
  · rw [written, List.singleton_append, skipString, if_neg control]
    · exact quote
    all_goals
      intros
      exact absurd (by assumption) backslash

theorem skipString_written (cs rest : List Char) :
    skipString (cs.flatMap escapeChar ++ '"' :: rest) = .ok rest := by
  induction cs with
  | nil => rfl
  | cons c more inductionHypothesis =>
      rw [List.flatMap_cons, List.append_assoc, skipString_escapeChar, inductionHypothesis]

/-- A number is written without needless zeros in front. -/
theorem toDigits_head_zero {n : Nat} (leads : (Nat.toDigits 10 n).head? = some '0') : n = 0 := by
  induction n using Nat.strong_induction_on with
  | _ n inductionHypothesis =>
    rw [Nat.toDigits_eq_if (by decide)] at leads
    by_cases small : n < 10
    · rw [if_pos small] at leads
      have zero : ∀ digit < 10, Nat.digitChar digit = '0' → digit = 0 := by decide
      exact zero n small (Option.some.inj leads)
    · rw [if_neg small, List.head?_append_of_ne_nil _ Nat.toDigits_ne_nil] at leads
      have quotient := inductionHypothesis (n / 10) (by omega) leads
      omega

theorem stops_isDigit_of_delimited (delimited : Delimited rest) : Stops Char.isDigit rest := by
  intro c member
  rw [← Bool.not_eq_true]
  intro digit
  have separates := delimited c member
  rw [isSeparator_eq_false_of_isDigit digit] at separates
  exact Bool.false_ne_true separates

/-- Behind a value neither a fraction nor an exponent goes on. -/
theorem skipScale_of_delimited (delimited : Delimited rest) : skipScale rest = .ok rest := by
  cases rest with
  | nil => rfl
  | cons c more =>
      have noMark : isExponentMark c = false := by
        rw [← Bool.not_eq_true]
        intro mark
        rw [isExponentMark, Bool.or_eq_true, decide_eq_true_iff, decide_eq_true_iff] at mark
        have separates := delimited_cons.mp delimited
        rcases mark with rfl | rfl
        · exact absurd separates (by decide)
        · exact absurd separates (by decide)
      rw [skipScale, noMark]
      rfl

theorem skipNumber_toDigits (n : Nat) (delimited : Delimited rest) :
    skipNumber (Nat.toDigits 10 n ++ rest) = .ok rest := by
  have isNumber : Run Char.isDigit (Nat.toDigits 10 n) :=
    ⟨Nat.toDigits_ne_nil, fun c member => Nat.isDigit_of_mem_toDigits (by decide) (by decide) member⟩
  have plain : (1 < (Nat.toDigits 10 n).length && (Nat.toDigits 10 n).head? = some '0') = false := by
    rw [Bool.and_eq_false_iff, decide_eq_false_iff_not, decide_eq_false_iff_not]
    by_cases leads : (Nat.toDigits 10 n).head? = some '0'
    · left
      rw [toDigits_head_zero leads]
      decide
    · exact Or.inr leads
  have scaled := skipScale_of_delimited delimited
  rw [skipNumber, run?_append isNumber (stops_isDigit_of_delimited delimited)]
  simp only [plain, Bool.false_eq_true, if_false]
  split
  · exact absurd (delimited_cons.mp delimited) (by decide)
  · exact scaled

/-! ### Lists and objects -/

/-- Skipping goes on behind a value: it is over, or it is back in the list or object around it. -/
def resume (limit : Nat) : List Frame → List Char → Except Problem (List Char)
  | [], rest => .ok rest
  | frame :: outer, rest => skipFrom limit (.inside frame true) outer rest

variable {outer : List Frame} {limit : Nat}

theorem skipFrom_scalar (skipped : skipStart text = .ok (none, rest)) :
    skipFrom (limit + 1) .value outer text = resume limit outer rest := by
  rw [skipFrom, skipped]
  cases outer with
  | nil => rfl
  | cons frame outer => rfl

theorem skipFrom_frame {frame : Frame} (entered : skipStart text = .ok (some frame, rest)) :
    skipFrom (limit + 1) .value outer text = skipFrom limit (.inside frame false) outer rest := by
  rw [skipFrom, entered]
  rfl

theorem skipFrom_close (frame : Frame) (afterElement : Bool) (blank : Gap gap) :
    skipFrom (limit + 1) (.inside frame afterElement) outer (gap ++ frame.closing :: rest) =
      resume limit outer rest := by
  have stops : Stops isGap (frame.closing :: rest) := by
    rw [stops_cons]
    cases frame with
    | list => decide
    | object => decide
  have noComma : frame.closing ≠ ',' := by
    cases frame with
    | list => decide
    | object => decide
  rw [skipFrom, skipGap_append blank stops]
  simp only [noComma, decide_false, Bool.false_and, Bool.false_eq_true, if_false, if_true]
  cases outer with
  | nil => rfl
  | cons next outer => rfl

/-- A comma leads from an element to the next one. -/
theorem skipFrom_comma (frame : Frame) (blank : Gap gap) :
    skipFrom (limit + 1) (.inside frame true) outer (gap ++ ',' :: rest) =
      (frame.enter rest).bind (skipFrom limit .value (frame :: outer)) := by
  rw [skipFrom, skipGap_append blank (stops_cons.mpr (by decide))]
  rfl

/-- The first element starts where no bracket closes. -/
theorem skipFrom_first (frame : Frame) (blank : Gap gap) {c : Char} (token : isSeparator c = false) :
    skipFrom (limit + 1) (.inside frame false) outer (gap ++ c :: rest) =
      (frame.enter (c :: rest)).bind (skipFrom limit .value (frame :: outer)) := by
  rw [isSeparator, Bool.or_eq_false_iff, Bool.or_eq_false_iff, Bool.or_eq_false_iff] at token
  obtain ⟨⟨⟨noGap, _⟩, noBracket⟩, noBrace⟩ := token
  have noClosing : c ≠ frame.closing := by
    cases frame with
    | list => exact of_decide_eq_false noBracket
    | object => exact of_decide_eq_false noBrace
  rw [skipFrom, skipGap_append blank (stops_cons.mpr noGap)]
  simp only [Bool.and_false, Bool.false_eq_true, if_false, noClosing]
  rfl

theorem skipFrom_element {first : Bool} {lead : List Char} (leads : Lead first lead)
    (spells : Spells json text) :
    ∃ blank, Gap blank ∧ ∀ limit,
      skipFrom (limit + 1) (.inside .list (!first)) outer (lead ++ (text ++ rest)) =
        skipFrom limit .value (.list :: outer) (blank ++ (text ++ rest)) := by
  cases first with
  | true =>
      obtain ⟨c, more, rfl, token, _⟩ := spells.head
      exact ⟨[], gap_nil, fun limit => skipFrom_first .list leads token⟩
  | false =>
      obtain ⟨before, after, blankBefore, blankAfter, rfl⟩ := leads
      refine ⟨after, blankAfter, ?_⟩
      intro limit
      rw [List.append_assoc]
      exact skipFrom_comma .list blankBefore

theorem enter_key (key : String) (blank : Gap gap) {space : List Char} (spaced : Gap space) :
    Frame.object.enter (gap ++ (writeString key ++ (space ++ ':' :: rest))) = .ok rest := by
  have written : writeString key ++ (space ++ ':' :: rest) =
      '"' :: (key.toList.flatMap escapeChar ++ '"' :: (space ++ ':' :: rest)) := by
    simp [writeString]
  rw [written, Frame.enter, skipGap_append blank (stops_cons.mpr (by decide))]
  simp only [skipString_written, bind, Except.bind, colon_append spaced]

theorem skipFrom_member {first : Bool} {lead before : List Char} (key : String)
    (leads : Lead first lead) (blankBefore : Gap before) :
    skipFrom (limit + 1) (.inside .object (!first)) outer
        (lead ++ (writeString key ++ (before ++ ':' :: rest))) =
      skipFrom limit .value (.object :: outer) rest := by
  cases first with
  | true =>
      have entered := @enter_key [] rest key gap_nil before blankBefore
      rw [show writeString key = '"' :: (key.toList.flatMap escapeChar ++ ['"']) from rfl] at entered ⊢
      rw [List.cons_append, Bool.not_true, skipFrom_first .object leads (by decide)]
      rw [List.nil_append, List.cons_append] at entered
      rw [entered]
      rfl
  | false =>
      obtain ⟨gap, blank, blankGap, isBlank, rfl⟩ := leads
      rw [List.append_assoc, List.cons_append, Bool.not_false, skipFrom_comma .object blankGap,
        enter_key key isBlank blankBefore]
      rfl

/-! ### Values -/

/-- A value other than a list or an object is skipped at once. -/
theorem skipStart_boolean (value : Bool) :
    skipStart ((Value.boolean value).compact ++ rest) = .ok (none, rest) := by
  cases value with
  | true => rfl
  | false => rfl

theorem skipStart_string (value : String) :
    skipStart (writeString value ++ rest) = .ok (none, rest) := by
  have written : writeString value ++ rest =
      '"' :: (value.toList.flatMap escapeChar ++ '"' :: rest) := by
    simp [writeString]
  have start : skipStart ('"' :: (value.toList.flatMap escapeChar ++ '"' :: rest)) =
      (skipString (value.toList.flatMap escapeChar ++ '"' :: rest)).map fun rest => (none, rest) := rfl
  rw [written, start, skipString_written]
  rfl

theorem skipStart_digits (n : Nat) (delimited : Delimited rest) :
    skipStart (Nat.toDigits 10 n ++ rest) = .ok (none, rest) := by
  have skipped := skipNumber_toDigits n delimited
  obtain ⟨c, more, digits, isDigit⟩ := toDigits_head n
  rw [digits, List.cons_append] at skipped ⊢
  have noGap : skipGap (c :: (more ++ rest)) = c :: (more ++ rest) :=
    skipGap_token gap_nil (isSeparator_eq_false_of_isDigit isDigit)
  rw [skipStart, noGap]
  split <;> simp_all [Except.map]

theorem skipStart_number (value : Int) (delimited : Delimited rest) :
    skipStart (writeNumber value ++ rest) = .ok (none, rest) := by
  cases value with
  | ofNat n => exact skipStart_digits n delimited
  | negSucc n =>
      have start : skipStart ('-' :: (Nat.toDigits 10 (n + 1) ++ rest)) =
          (skipNumber (Nat.toDigits 10 (n + 1) ++ rest)).map fun rest => (none, rest) := rfl
      rw [writeNumber, List.cons_append, start, skipNumber_toDigits (n + 1) delimited]
      rfl

/-- White space in front of a value does not matter. -/
theorem skipStart_gap (blank : Gap gap) (spells : Spells json text) (rest : List Char) :
    skipStart (gap ++ (text ++ rest)) = skipStart (text ++ rest) := by
  have direct := skipGap_spelled gap_nil spells rest
  rw [List.nil_append] at direct
  rw [skipStart, skipStart, skipGap_spelled blank spells, direct]

/-- In a number of steps that has a bound, skipping comes from a state to behind a value. -/
def Skips (state : SkipState) (bound : Nat) (outer : List Frame) (text rest : List Char) : Prop :=
  ∃ used ≤ bound, ∀ limit, skipFrom (limit + used) state outer text = resume limit outer rest

theorem skips_of_scalar (blank : Gap gap) (spells : Spells json text)
    (skipped : skipStart (text ++ rest) = .ok (none, rest)) :
    Skips .value (2 * text.length - 1) outer (gap ++ (text ++ rest)) rest := by
  have positive := spells.length_pos
  refine ⟨1, by omega, ?_⟩
  intro limit
  exact skipFrom_scalar (by rw [skipStart_gap blank spells, skipped])

theorem skips_of_frame {frame : Frame} {inside : List Char} {bound : Nat}
    (entered : skipStart text = .ok (some frame, inside))
    (skipped : Skips (.inside frame false) bound outer inside rest) :
    Skips .value (bound + 1) outer text rest := by
  obtain ⟨used, within, skips⟩ := skipped
  refine ⟨used + 1, by omega, ?_⟩
  intro limit
  rw [← Nat.add_assoc, skipFrom_frame entered]
  exact skips limit

theorem skips_of_close (frame : Frame) (afterElement : Bool) (blank : Gap gap) :
    Skips (.inside frame afterElement) 1 outer (gap ++ frame.closing :: rest) rest :=
  ⟨1, Nat.le_refl 1, fun _ => skipFrom_close frame afterElement blank⟩

/-- An element or a member is skipped, and then those behind it. -/
theorem skips_of_next {frame : Frame} {state : SkipState} {before after : List Char}
    {bound boundLater : Nat}
    (moved : ∀ limit,
      skipFrom (limit + 1) state outer text = skipFrom limit .value (frame :: outer) before)
    (here : Skips .value bound (frame :: outer) before after)
    (later : Skips (.inside frame true) boundLater outer after rest) :
    Skips state (bound + boundLater + 1) outer text rest := by
  obtain ⟨used, within, skips⟩ := here
  obtain ⟨usedLater, withinLater, skipsLater⟩ := later
  refine ⟨usedLater + used + 1, by omega, ?_⟩
  intro limit
  rw [← Nat.add_assoc, ← Nat.add_assoc, moved, skips]
  exact skipsLater limit

theorem Skips.mono {state : SkipState} {bound other : Nat} (skips : Skips state bound outer text rest)
    (atMost : bound ≤ other) : Skips state other outer text rest := by
  obtain ⟨used, within, skipped⟩ := skips
  exact ⟨used, Nat.le_trans within atMost, skipped⟩

-- The bound leaves room for the step that leads to an element: a text is not empty, so two steps
-- for each of its characters are one more than the value itself takes.
mutual

/-- Every value is skipped, and the text after it is left. -/
theorem skips_value : ∀ {json : Value} {gap text rest : List Char} {outer : List Frame}, Gap gap →
    Spells json text → Delimited rest →
    Skips .value (2 * text.length - 1) outer (gap ++ (text ++ rest)) rest
  | .null, _, _, _, _, blank, .null, _ => skips_of_scalar blank .null rfl
  | .boolean value, _, _, _, _, blank, .boolean _, _ =>
      skips_of_scalar blank (.boolean value) (skipStart_boolean value)
  | .number value, _, _, _, _, blank, .number _, delimited =>
      skips_of_scalar blank (.number value) (skipStart_number value delimited)
  | .string value, _, _, _, _, blank, .string _, _ =>
      skips_of_scalar blank (.string value) (skipStart_string value)
  | .array elements, gap, _, rest, outer, blank, .array inside, _ => by
      have entered := (skipStart_gap blank (.array inside) rest).trans rfl
      refine (skips_of_frame entered (skips_elements inside)).mono ?_
      simp only [List.length_cons]
      omega
  | .object members, gap, _, rest, outer, blank, .object inside, _ => by
      have entered := (skipStart_gap blank (.object inside) rest).trans rfl
      refine (skips_of_frame entered (skips_members inside)).mono ?_
      simp only [List.length_cons]
      omega

/-- The elements of a list that are left are skipped up to its closing bracket. -/
theorem skips_elements : ∀ {elements : List Value} {first : Bool} {text rest : List Char}
    {outer : List Frame}, SpellsElements first elements text →
    Skips (.inside .list (!first)) (2 * text.length) outer (text ++ rest) rest
  | [], first, _, rest, outer, .close blank => by
      rw [List.append_assoc]
      refine (skips_of_close .list (!first) blank).mono ?_
      simp only [List.length_append, List.length_singleton]
      omega
  | head :: tail, _, _, rest, outer, .next leads here later => by
      obtain ⟨blank, isBlank, moved⟩ := skipFrom_element leads here
      have positive := here.length_pos
      rw [List.append_assoc, List.append_assoc]
      refine (skips_of_next moved (skips_value isBlank here (later.delimited rest))
        (skips_elements later)).mono ?_
      simp only [List.length_append]
      omega

/-- The members of an object that are left are skipped up to its closing brace. -/
theorem skips_members : ∀ {members : List (String × Value)} {first : Bool} {text rest : List Char}
    {outer : List Frame}, SpellsMembers first members text →
    Skips (.inside .object (!first)) (2 * text.length) outer (text ++ rest) rest
  | [], first, _, rest, outer, .close blank => by
      rw [List.append_assoc]
      refine (skips_of_close .object (!first) blank).mono ?_
      simp only [List.length_append, List.length_singleton]
      omega
  | (_, value) :: tail, _, _, rest, outer, .next key leads blankBefore blankAfter here later => by
      have positive := here.length_pos
      simp only [List.append_assoc, List.cons_append]
      refine (skips_of_next (fun limit => skipFrom_member key leads blankBefore)
        (skips_value blankAfter here (later.delimited rest)) (skips_members later)).mono ?_
      simp only [List.length_append, List.length_cons]
      omega

end

theorem skipValue_spelled (blank : Gap gap) (spells : Spells json text) (delimited : Delimited rest) :
    skipValue (gap ++ (text ++ rest)) = .ok rest := by
  obtain ⟨used, within, skips⟩ := @skips_value json gap text rest [] blank spells delimited
  have room : 2 * (gap ++ (text ++ rest)).length + 2 =
      (2 * (gap ++ (text ++ rest)).length + 2 - used) + used := by
    simp only [List.length_append]
    omega
  rw [skipValue, room, skips]
  rfl

/-! ### Records -/

section Records

variable {σ : Type} {shape : Shape σ}

theorem Shape.takes_unknown {key : String} (unknown : shape.fields.find? (·.name = key) = none)
    (draft : σ) (json : Value) : Takes shape.member draft key json draft := by
  intro gap lead text rest blank blankLead spells delimited
  simp only [Shape.member, unknown, colon_append blank,
    skipValue_spelled blankLead spells delimited, bind, Except.bind]
  rfl

/-- Members that are no fields of a record leave its draft as it is. -/
theorem Shape.fills_unknown {members : List (String × Value)}
    (unknown : ∀ name ∈ members.map Prod.fst, shape.fields.find? (·.name = name) = none) (draft : σ) :
    Fills shape.member draft members draft := by
  induction members with
  | nil => exact .nil draft
  | cons member later inductionHypothesis =>
      obtain ⟨here, others⟩ := List.forall_mem_cons.mp unknown
      exact .cons (Shape.takes_unknown here draft member.2) (inductionHypothesis others)

end Records

end DeadSymbols.Json
