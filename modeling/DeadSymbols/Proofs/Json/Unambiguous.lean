import DeadSymbols.Proofs.Json.Skipping

/-!
Contract: no text spells two values.

The first character of a text tells the kind of its value. Scalars are written in one way each. In a
list or an object, what stands next is found by reading, and how far it goes by skipping, so both are
decided by the text alone, and the values inside are the same by induction.

Owns: `Spells.unique`.
-/

namespace DeadSymbols.Json

variable {text rest : List Char} {json : Value}

/-! ### Kinds -/

/-- The kinds of values. -/
inductive Kind where
  | null
  | boolean
  | number
  | string
  | array
  | object
deriving DecidableEq, Repr

def Value.kind : Value → Kind
  | .null => .null
  | .boolean _ => .boolean
  | .number _ => .number
  | .string _ => .string
  | .array _ => .array
  | .object _ => .object

/-- The kind of value that a character starts, if it starts any. -/
def kindOf (c : Char) : Kind :=
  if c = 'n' then .null
  else if c = 't' || c = 'f' then .boolean
  else if c = '"' then .string
  else if c = '[' then .array
  else if c = '\x7b' then .object
  else .number

theorem kindOf_digit {c : Char} (isDigit : c.isDigit = true) : kindOf c = .number := by
  unfold kindOf
  split_ifs with null boolean string array object
  · exact absurd isDigit (null ▸ by decide)
  · rw [Bool.or_eq_true, decide_eq_true_iff, decide_eq_true_iff] at boolean
    rcases boolean with rfl | rfl
    · exact absurd isDigit (by decide)
    · exact absurd isDigit (by decide)
  · exact absurd isDigit (string ▸ by decide)
  · exact absurd isDigit (array ▸ by decide)
  · exact absurd isDigit (object ▸ by decide)
  · rfl

theorem Spells.exists_kindOf (spells : Spells json text) :
    ∃ c more, text = c :: more ∧ json.kind = kindOf c := by
  cases spells with
  | null => exact ⟨'n', _, rfl, rfl⟩
  | boolean value =>
      cases value with
      | true => exact ⟨'t', _, rfl, rfl⟩
      | false => exact ⟨'f', _, rfl, rfl⟩
  | number value =>
      cases value with
      | ofNat n =>
          obtain ⟨c, more, digits, isDigit⟩ := toDigits_head n
          exact ⟨c, more, digits, (kindOf_digit isDigit).symm⟩
      | negSucc n => exact ⟨'-', _, rfl, rfl⟩
  | string value => exact ⟨'"', _, rfl, rfl⟩
  | array inside => exact ⟨'[', _, rfl, rfl⟩
  | object inside => exact ⟨'\x7b', _, rfl, rfl⟩

/-- Values with one text are of one kind. -/
theorem Spells.kind_eq {other : Value} (first : Spells json text) (second : Spells other text) :
    json.kind = other.kind := by
  obtain ⟨c, more, rfl, kind⟩ := first.exists_kindOf
  obtain ⟨d, others, same, otherKind⟩ := second.exists_kindOf
  rw [kind, otherKind, (List.cons.inj same).1]

/-! ### Scalars -/

theorem compact_boolean_inj : ∀ {value other : Bool},
    (Value.boolean value).compact = (Value.boolean other).compact → value = other := by
  decide

theorem toDigits_injective : Function.Injective (Nat.toDigits 10) := by
  intro m n same
  rw [← @Nat.ofDigitChars_ten_toDigits m, same, Nat.ofDigitChars_ten_toDigits]

theorem writeNumber_injective : Function.Injective writeNumber := by
  -- A sign is no digit, so the two ways to write a number do not meet.
  have signed (m n : Nat) : Nat.toDigits 10 m ≠ '-' :: Nat.toDigits 10 n := by
    intro same
    obtain ⟨c, more, digits, isDigit⟩ := toDigits_head m
    rw [digits] at same
    rw [(List.cons.inj same).1] at isDigit
    exact absurd isDigit (by decide)
  intro value other same
  cases value with
  | ofNat m =>
      cases other with
      | ofNat n => exact congrArg Int.ofNat (toDigits_injective same)
      | negSucc n => exact absurd same (signed m (n + 1))
  | negSucc m =>
      cases other with
      | ofNat n => exact absurd same.symm (signed n (m + 1))
      | negSucc n =>
          have digits := toDigits_injective (List.cons.inj same).2
          exact congrArg Int.negSucc (Nat.succ.inj digits)

/-- A written string ends at its closing quote. -/
theorem writeString_cancel {key other : String} {otherRest : List Char}
    (same : writeString key ++ rest = writeString other ++ otherRest) :
    key = other ∧ rest = otherRest := by
  have read (key : String) (rest : List Char) :
      string (writeString key ++ rest) = .ok (key, rest) :=
    reads_string key [] (writeString key) rest gap_nil (.string key)
  have whole := read key rest
  rw [same, read other otherRest] at whole
  obtain ⟨rfl, rfl⟩ := Prod.mk.inj (Except.ok.inj whole)
  exact ⟨rfl, rfl⟩

/-! ### Lists and objects -/

/-- A text ends where its value ends, whatever follows. -/
theorem Spells.cancel {other : Value} {otherText otherRest : List Char} (first : Spells json text)
    (second : Spells other otherText) (delimited : Delimited rest)
    (otherDelimited : Delimited otherRest) (same : text ++ rest = otherText ++ otherRest) :
    text = otherText ∧ rest = otherRest := by
  have skipped := skipValue_spelled gap_nil first delimited
  have otherSkipped := skipValue_spelled gap_nil second otherDelimited
  rw [same, otherSkipped] at skipped
  obtain rfl := Except.ok.inj skipped
  exact ⟨List.append_cancel_right same, rfl⟩

theorem SpellsElements.exists_next {first : Bool} {head : Value} {tail : List Value}
    (spells : SpellsElements first (head :: tail) text) :
    ∃ here rest, nextElement first text = .ok (true, here ++ rest) ∧ Spells head here ∧
      SpellsElements false tail rest := by
  cases spells with
  | next leads here later => exact ⟨_, _, nextElement_lead leads here _, here, later⟩

theorem SpellsElements.not_closing {first : Bool} {head : Value} {tail : List Value}
    (spells : SpellsElements first (head :: tail) text) : ¬ SpellsElements first [] text := by
  intro closing
  obtain ⟨here, rest, starts, _⟩ := spells.exists_next
  cases closing with
  | close blank =>
      rw [nextElement_close first blank] at starts
      exact Bool.false_ne_true (Prod.mk.inj (Except.ok.inj starts)).1

/-- Reads a member up to its value, if there is one. -/
def readKey (first : Bool) (text : List Char) : Except Problem (List Char × List Char) := do
  let (more, text) ← nextKey first text
  if more then
    let (key, text) ← readString text
    return (key, skipGap (← colon text))
  else .error .endInObject

theorem SpellsMembers.exists_next {first : Bool} {key : String} {value : Value}
    {tail : List (String × Value)} (spells : SpellsMembers first ((key, value) :: tail) text) :
    ∃ here rest, readKey first text = .ok (key.toList, here ++ rest) ∧ Spells value here ∧
      SpellsMembers false tail rest := by
  cases spells with
  | @next _ lead before after here rest _ _ _ leads blankBefore blankAfter spells later =>
      refine ⟨here, rest, ?_, spells, later⟩
      have shape : lead ++ (writeString key ++ (before ++ ':' :: (after ++ (here ++ rest)))) =
          lead ++ '"' :: (key.toList.flatMap escapeChar ++
            '"' :: (before ++ ':' :: (after ++ (here ++ rest)))) := by
        simp [writeString]
      rw [shape, readKey, nextKey_lead leads]
      simp only [bind, Except.bind, if_true, readString_written, colon_append blankBefore,
        skipGap_spelled blankAfter spells]
      rfl

theorem SpellsMembers.not_closing {first : Bool} {head : String × Value}
    {tail : List (String × Value)} (spells : SpellsMembers first (head :: tail) text) :
    ¬ SpellsMembers first [] text := by
  intro closing
  obtain ⟨here, rest, starts, _⟩ := spells.exists_next
  cases closing with
  | close blank =>
      rw [readKey, nextKey_close first blank] at starts
      cases starts

/-! ### Values -/

mutual

/-- No text spells two values. -/
theorem Spells.unique : ∀ {value other : Value} {text : List Char}, Spells value text →
    Spells other text → value = other
  | .null, other, _, first, second => by
      have kind := first.kind_eq second
      cases other with
      | null => rfl
      | _ => exact Kind.noConfusion kind
  | .boolean value, other, text, first, second => by
      have kind := first.kind_eq second
      cases other with
      | boolean other =>
          have written : text = (Value.boolean value).compact := by cases first; rfl
          have otherWritten : text = (Value.boolean other).compact := by cases second; rfl
          exact congrArg Value.boolean (compact_boolean_inj (written.symm.trans otherWritten))
      | _ => exact Kind.noConfusion kind
  | .number value, other, text, first, second => by
      have kind := first.kind_eq second
      cases other with
      | number other =>
          have written : text = writeNumber value := by cases first; rfl
          have otherWritten : text = writeNumber other := by cases second; rfl
          exact congrArg Value.number (writeNumber_injective (written.symm.trans otherWritten))
      | _ => exact Kind.noConfusion kind
  | .string value, other, text, first, second => by
      have kind := first.kind_eq second
      cases other with
      | string other =>
          have written : text = writeString value := by cases first; rfl
          have otherWritten : text = writeString other := by cases second; rfl
          have same := congrArg (· ++ []) (written.symm.trans otherWritten)
          exact congrArg Value.string (writeString_cancel same).1
      | _ => exact Kind.noConfusion kind
  | .array elements, other, _, first, second => by
      have kind := first.kind_eq second
      cases other with
      | array others =>
          cases first with
          | array inside =>
              cases second with
              | array otherInside => exact congrArg Value.array (inside.unique otherInside)
      | _ => exact Kind.noConfusion kind
  | .object members, other, _, first, second => by
      have kind := first.kind_eq second
      cases other with
      | object others =>
          cases first with
          | object inside =>
              cases second with
              | object otherInside => exact congrArg Value.object (inside.unique otherInside)
      | _ => exact Kind.noConfusion kind

theorem SpellsElements.unique : ∀ {elements others : List Value} {first : Bool} {text : List Char},
    SpellsElements first elements text → SpellsElements first others text → elements = others
  | [], [], _, _, _, _ => rfl
  | [], _ :: _, _, _, closing, going => (going.not_closing closing).elim
  | _ :: _, [], _, _, going, closing => (going.not_closing closing).elim
  | _ :: _, _ :: _, _, _, here, there => by
      obtain ⟨text, rest, starts, spells, later⟩ := here.exists_next
      obtain ⟨otherText, otherRest, otherStarts, otherSpells, otherLater⟩ := there.exists_next
      rw [starts] at otherStarts
      have same := (Prod.mk.inj (Except.ok.inj otherStarts)).2
      obtain ⟨rfl, rfl⟩ := spells.cancel otherSpells (by simpa using later.delimited [])
        (by simpa using otherLater.delimited []) same
      rw [spells.unique otherSpells, later.unique otherLater]

theorem SpellsMembers.unique : ∀ {members others : List (String × Value)} {first : Bool}
    {text : List Char}, SpellsMembers first members text → SpellsMembers first others text →
    members = others
  | [], [], _, _, _, _ => rfl
  | [], _ :: _, _, _, closing, going => (going.not_closing closing).elim
  | _ :: _, [], _, _, going, closing => (going.not_closing closing).elim
  | (_, _) :: _, (_, _) :: _, _, _, here, there => by
      obtain ⟨text, rest, starts, spells, later⟩ := here.exists_next
      obtain ⟨otherText, otherRest, otherStarts, otherSpells, otherLater⟩ := there.exists_next
      rw [starts] at otherStarts
      obtain ⟨sameKey, same⟩ := Prod.mk.inj (Except.ok.inj otherStarts)
      obtain ⟨rfl, rfl⟩ := spells.cancel otherSpells (by simpa using later.delimited [])
        (by simpa using otherLater.delimited []) same
      rw [String.toList_inj.mp sameKey, spells.unique otherSpells, later.unique otherLater]

end

end DeadSymbols.Json
