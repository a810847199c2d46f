import DeadSymbols.Proofs.Json.Unambiguous

/-!
Contract: which texts the decoders of strings and lists accept.

A decoder accepts a grammar when it reads exactly the texts of the grammar, behind white space, and
leaves what follows. The decoder of strings accepts the texts of strings. A decoder of lists accepts
the lists of what its element decoder accepts: brackets around the elements, a comma between two of
them and none behind the last, and white space anywhere between these.

Among the texts of values a decoder that reads only the written forms of its results meets nothing
else: from any other value it reads nothing, wherever in a list that value stands.

Owns: `Accepts`, `ReadsOnly`, their laws for strings and lists, whole texts.
-/

namespace DeadSymbols.Json

variable {α : Type} {gap text rest : List Char} {decoder : Decoder α}
  {grammar : α → List Char → Prop} {toJson : α → Value}

/-! ### Decoders and grammars -/

/-- The decoder reads exactly the texts of a grammar, behind white space, and leaves what follows. -/
def Accepts (decoder : Decoder α) (grammar : α → List Char → Prop) : Prop :=
  ∀ text result rest, decoder text = .ok (result, rest) ↔
    ∃ gap here, Gap gap ∧ grammar result here ∧ text = gap ++ (here ++ rest)

/-- Every text of the grammar starts with a token. -/
def Tokens (grammar : α → List Char → Prop) : Prop :=
  ∀ {result : α} {here : List Char}, grammar result here →
    ∃ c more, here = c :: more ∧ isSeparator c = false

/-- A text is the white space at its start and what skipping leaves of it. -/
theorem exists_gap (text : List Char) : ∃ gap, Gap gap ∧ text = gap ++ skipGap text := by
  refine ⟨text.takeWhile isGap, ?_, List.takeWhile_append_dropWhile.symm⟩
  intro c member
  exact List.mem_takeWhile_imp member

theorem skipGap_eq_nil_iff : skipGap text = [] ↔ Gap text := by
  rw [skipGap, List.dropWhile_eq_nil_iff]
  rfl

theorem bind_eq_ok_iff {ε β : Type} {read : Except ε α} {next : α → Except ε β} {result : β} :
    (read >>= next) = .ok result ↔ ∃ found, read = .ok found ∧ next found = .ok result := by
  cases read with
  | error problem => simp [bind, Except.bind]
  | ok found => simp [bind, Except.bind]

/-! ### Strings -/

theorem stringAs_eq_ok_iff {expected value : String} :
    stringAs expected text = .ok (value, rest) ↔
      ∃ inside, skipGap text = '"' :: inside ∧ readString inside = .ok (value.toList, rest) := by
  rw [stringAs]
  split
  · rename_i nothing
    simp [nothing]
  · rename_i inside quoted
    cases read : readString inside with
    | error problem => simp [quoted, read, Except.map]
    | ok found =>
        obtain ⟨chars, behind⟩ := found
        simp only [Except.map, Except.ok.injEq, Prod.mk.injEq, quoted, List.cons.injEq, true_and]
        constructor
        · intro same
          obtain ⟨rfl, rfl⟩ := same
          exact ⟨inside, rfl, by rw [read, String.toList_ofList]⟩
        · intro same
          obtain ⟨_, rfl, found⟩ := same
          rw [read] at found
          obtain ⟨rfl, rfl⟩ := Prod.mk.inj (Except.ok.inj found)
          exact ⟨String.ofList_toList, rfl⟩
  · rename_i noQuote
    constructor
    · intro found
      cases found
    · intro found
      obtain ⟨inside, quoted, _⟩ := found
      exact absurd quoted (noQuote inside)

theorem accepts_stringAs (expected : String) : Accepts (stringAs expected) StringText := by
  intro text value rest
  rw [stringAs_eq_ok_iff]
  constructor
  · intro found
    obtain ⟨inside, quoted, read⟩ := found
    obtain ⟨gap, blank, whole⟩ := exists_gap text
    obtain ⟨chars, spelled, rfl⟩ := readString_eq_ok_iff.mp read
    refine ⟨gap, '"' :: (chars ++ ['"']), blank, ⟨chars, spelled, rfl⟩, ?_⟩
    rw [whole, quoted]
    simp
  · intro spelled
    obtain ⟨gap, _, blank, ⟨chars, isChars, rfl⟩, rfl⟩ := spelled
    refine ⟨chars ++ '"' :: rest, ?_, readString_charsText isChars rest⟩
    rw [List.cons_append, skipGap_token blank (by decide)]
    simp

theorem tokens_stringText : Tokens StringText := by
  intro value here spelled
  obtain ⟨inside, _, rfl⟩ := spelled
  exact ⟨'"', _, rfl, by decide⟩

/-! ### Elements of a list -/

/-- The text spells the list. -/
def ListText (element : α → List Char → Prop) (results : List α) (text : List Char) : Prop :=
  ∃ inside, ElementsText element true results inside ∧ text = '[' :: inside

theorem lead_gap {first : Bool} {lead : List Char} (leads : Lead first lead) (blank : Gap gap) :
    Lead first (lead ++ gap) := by
  have joined {front : List Char} (blankFront : Gap front) : Gap (front ++ gap) := by
    intro c member
    rcases List.mem_append.mp member with inFront | inGap
    · exact blankFront c inFront
    · exact blank c inGap
  cases first with
  | true => exact joined leads
  | false =>
      obtain ⟨before, after, blankBefore, blankAfter, rfl⟩ := leads
      exact ⟨before, after ++ gap, blankBefore, joined blankAfter, by simp⟩

/-- Either the list is closed, or its next element follows what leads to it. -/
theorem nextElement_eq_ok {first more : Bool} (found : nextElement first text = .ok (more, rest)) :
    (more = false ∧ ∃ gap after, Gap gap ∧ text = gap ++ ']' :: after ∧ rest = ']' :: after) ∨
      (more = true ∧ ∃ lead, Lead first lead ∧ text = lead ++ rest) := by
  obtain ⟨gap, blank, whole⟩ := exists_gap text
  rw [nextElement] at found
  split at found
  · cases found
  · rename_i after closes
    obtain ⟨rfl, rfl⟩ := Prod.mk.inj (Except.ok.inj found)
    exact Or.inl ⟨rfl, gap, after, blank, by rw [whole, closes], rfl⟩
  · rename_i after comma
    cases first with
    | true =>
        -- A comma in front of the first element is left to the element's decoder.
        obtain ⟨rfl, rfl⟩ := Prod.mk.inj (Except.ok.inj found)
        exact Or.inr ⟨rfl, gap, blank, by rw [whole, comma]⟩
    | false =>
        obtain ⟨space, spaced, behind⟩ := exists_gap after
        simp only [Bool.false_eq_true, if_false] at found
        split at found
        · cases found
        · cases found
        · obtain ⟨rfl, rfl⟩ := Prod.mk.inj (Except.ok.inj found)
          refine Or.inr ⟨rfl, gap ++ ',' :: space, ⟨gap, space, blank, spaced, rfl⟩, ?_⟩
          rw [whole, comma, List.append_assoc, List.cons_append, ← behind]
  · cases first with
    | true =>
        obtain ⟨rfl, rfl⟩ := Prod.mk.inj (Except.ok.inj found)
        exact Or.inr ⟨rfl, gap, blank, whole⟩
    | false => cases found

theorem elements_eq_ok_iff {limit : Nat} {first : Bool} {results : List α} :
    elements decoder (limit + 1) first text = .ok (results, rest) ↔
      (nextElement first text = .ok (false, rest) ∧ results = []) ∨
        ∃ here head behind tail, nextElement first text = .ok (true, here) ∧
          decoder here = .ok (head, behind) ∧
          elements decoder limit false behind = .ok (tail, rest) ∧ results = head :: tail := by
  simp only [elements, bind_eq_ok_iff, Prod.exists, Bool.exists_bool, if_true, Bool.false_eq_true,
    if_false, pure, Except.pure, Except.ok.injEq, Prod.mk.injEq]
  constructor
  · intro found
    rcases found with ⟨_, closes, rfl, rfl⟩ |
      ⟨here, goesOn, head, behind, read, tail, _, later, rfl, rfl⟩
    · exact Or.inl ⟨closes, rfl⟩
    · exact Or.inr ⟨here, head, behind, tail, goesOn, read, later, rfl⟩
  · intro found
    rcases found with ⟨closes, rfl⟩ | ⟨here, head, behind, tail, goesOn, read, later, rfl⟩
    · exact Or.inl ⟨rest, closes, rfl, rfl⟩
    · exact Or.inr ⟨here, goesOn, head, behind, read, tail, rest, later, rfl, rfl⟩

/-- What is read as elements is spelled as elements, up to the closing bracket. -/
theorem elementsText_of_elements (accepts : Accepts decoder grammar) {limit : Nat} {first : Bool}
    {results : List α} (read : elements decoder limit first text = .ok (results, rest)) :
    ∃ inside after, ElementsText grammar first results inside ∧ rest = ']' :: after ∧
      text = inside ++ after := by
  induction limit generalizing first text results with
  | zero => cases read
  | succ limit inductionHypothesis =>
      rcases elements_eq_ok_iff.mp read with ⟨closes, rfl⟩ |
        ⟨here, head, behind, tail, goesOn, found, later, rfl⟩
      · rcases nextElement_eq_ok closes with ⟨_, gap, after, blank, rfl, rfl⟩ | ⟨more, _⟩
        · exact ⟨gap ++ [']'], after, .close blank, rfl, by simp⟩
        · cases more
      · rcases nextElement_eq_ok goesOn with ⟨more, _⟩ | ⟨_, lead, leads, rfl⟩
        · cases more
        · obtain ⟨gap, spelled, blank, isElement, rfl⟩ := (accepts _ _ _).mp found
          obtain ⟨inside, after, spelledLater, rfl, rfl⟩ := inductionHypothesis later
          exact ⟨_, after, .next (lead_gap leads blank) isElement spelledLater, rfl, by simp⟩

theorem ElementsText.readsAs (accepts : Accepts decoder grammar) (tokens : Tokens grammar)
    {first : Bool} {results : List α} (spelled : ElementsText grammar first results text) :
    ElementsText (ReadsAs decoder) first results text := by
  induction spelled with
  | close blank => exact .close blank
  | next leads here _ inductionHypothesis =>
      have readsHere := fun rest => (accepts _ _ rest).mpr ⟨[], _, gap_nil, here, rfl⟩
      exact .next leads ⟨tokens here, readsHere⟩ inductionHypothesis

/-! ### Lists -/

theorem closeList_bracket (rest : List Char) : closeList (']' :: rest) = .ok rest := rfl

theorem list_eq_ok_iff {results : List α} :
    list decoder text = .ok (results, rest) ↔
      ∃ inside behind, skipGap text = '[' :: inside ∧
        elements decoder (inside.length + 1) true inside = .ok (results, behind) ∧
        closeList behind = .ok rest := by
  rw [list]
  split
  · rename_i nothing
    simp [nothing]
  · rename_i inside opened
    simp only [bind_eq_ok_iff, Prod.exists, opened, List.cons.injEq, true_and, pure, Except.pure,
      Except.ok.injEq, Prod.mk.injEq]
    constructor
    · intro found
      obtain ⟨_, behind, read, _, closes, rfl, rfl⟩ := found
      exact ⟨inside, behind, rfl, read, closes⟩
    · intro found
      obtain ⟨_, behind, rfl, read, closes⟩ := found
      exact ⟨results, behind, read, rest, closes, rfl, rfl⟩
  · rename_i noBracket
    constructor
    · intro found
      cases found
    · intro found
      obtain ⟨inside, _, opened, _⟩ := found
      exact absurd opened (noBracket inside)

/-- A decoder of lists accepts exactly the lists of what its element decoder accepts. -/
theorem Accepts.list (accepts : Accepts decoder grammar) (tokens : Tokens grammar) :
    Accepts (list decoder) (ListText grammar) := by
  intro text results rest
  constructor
  · intro found
    obtain ⟨inside, behind, opened, read, closes⟩ := list_eq_ok_iff.mp found
    obtain ⟨gap, blank, whole⟩ := exists_gap text
    obtain ⟨spelled, after, isElements, rfl, rfl⟩ := elementsText_of_elements accepts read
    rw [closeList_bracket] at closes
    obtain rfl := Except.ok.inj closes
    refine ⟨gap, '[' :: spelled, blank, ⟨spelled, isElements, rfl⟩, ?_⟩
    rw [whole, opened]
    rfl
  · intro spelled
    obtain ⟨gap, _, blank, ⟨inside, isElements, rfl⟩, rfl⟩ := spelled
    exact (isElements.readsAs accepts tokens).read_list blank rest

/-! ### Whole texts -/

/-- A text of the grammar with white space around it. -/
def Surrounded (grammar : α → List Char → Prop) (result : α) (text : List Char) : Prop :=
  ∃ before here after, Gap before ∧ grammar result here ∧ Gap after ∧
    text = before ++ (here ++ after)

theorem decode_eq_ok_iff {result : α} :
    decode decoder text = .ok result ↔ ∃ rest, decoder text = .ok (result, rest) ∧ Gap rest := by
  simp only [decode, bind_eq_ok_iff, Prod.exists, ← skipGap_eq_nil_iff]
  constructor
  · intro found
    obtain ⟨_, rest, read, ends⟩ := found
    split at ends
    · rename_i nothing
      obtain rfl := Except.ok.inj ends
      exact ⟨rest, read, nothing⟩
    · cases ends
  · intro found
    obtain ⟨rest, read, nothing⟩ := found
    exact ⟨result, rest, read, by rw [nothing]; rfl⟩

theorem Accepts.decode_iff (accepts : Accepts decoder grammar) {result : α} :
    decode decoder text = .ok result ↔ Surrounded grammar result text := by
  rw [decode_eq_ok_iff]
  constructor
  · intro found
    obtain ⟨rest, read, blank⟩ := found
    obtain ⟨gap, here, blankBefore, spelled, rfl⟩ := (accepts _ _ _).mp read
    exact ⟨gap, here, rest, blankBefore, spelled, blank, rfl⟩
  · intro surrounded
    obtain ⟨before, here, after, blankBefore, spelled, blankAfter, rfl⟩ := surrounded
    exact ⟨after, (accepts _ _ _).mpr ⟨before, here, blankBefore, spelled, rfl⟩, blankAfter⟩

/-! ### Texts of values -/

/-- From the texts of values the decoder reads only written forms of its results, and then the
result that is written. -/
def ReadsOnly (decoder : Decoder α) (toJson : α → Value) : Prop :=
  ∀ {json : Value} {gap text rest : List Char} {result : α} {after : List Char}, Gap gap →
    Spells json text → decoder (gap ++ (text ++ rest)) = .ok (result, after) →
    json = toJson result ∧ after = rest

theorem readsOnly_string : ReadsOnly string .string := by
  intro json gap text rest name after blank spells read
  obtain ⟨inside, quoted, _⟩ := stringAs_eq_ok_iff.mp read
  obtain ⟨c, more, rfl, kind⟩ := spells.exists_kindOf
  rw [skipGap_spelled blank spells] at quoted
  obtain rfl : c = '"' := (List.cons.inj quoted).1
  cases json with
  | string value =>
      rw [reads_string value gap _ rest blank spells] at read
      obtain ⟨rfl, rfl⟩ := Prod.mk.inj (Except.ok.inj read)
      exact ⟨rfl, rfl⟩
  | _ => cases kind

theorem ReadsOnly.elements (readsOnly : ReadsOnly decoder toJson) {jsons : List Value}
    {first : Bool} {limit : Nat} {results : List α} {after : List Char}
    (spells : SpellsElements first jsons text)
    (read : elements decoder limit first (text ++ rest) = .ok (results, after)) :
    jsons = results.map toJson ∧ after = ']' :: rest := by
  induction jsons generalizing first text limit results with
  | nil =>
      cases spells with
      | close blank =>
          cases limit with
          | zero => cases read
          | succ limit =>
              rw [List.append_assoc, List.singleton_append] at read
              rcases elements_eq_ok_iff.mp read with ⟨closes, rfl⟩ | ⟨_, _, _, _, goesOn, _⟩
              · rw [nextElement_close first blank] at closes
                exact ⟨rfl, (Prod.mk.inj (Except.ok.inj closes)).2.symm⟩
              · rw [nextElement_close first blank] at goesOn
                cases goesOn
  | cons json jsons inductionHypothesis =>
      cases spells with
      | next leads spellsHere spellsLater =>
          cases limit with
          | zero => cases read
          | succ limit =>
              rw [List.append_assoc, List.append_assoc] at read
              rcases elements_eq_ok_iff.mp read with ⟨closes, _⟩ |
                ⟨_, head, behind, tail, goesOn, readHere, readLater, rfl⟩
              · rw [nextElement_lead leads spellsHere] at closes
                cases closes
              · rw [nextElement_lead leads spellsHere] at goesOn
                obtain ⟨_, rfl⟩ := Prod.mk.inj (Except.ok.inj goesOn)
                obtain ⟨rfl, rfl⟩ := readsOnly gap_nil spellsHere readHere
                obtain ⟨rfl, rfl⟩ := inductionHypothesis spellsLater readLater
                exact ⟨rfl, rfl⟩

/-- A list with an element that the element's decoder does not read is not read either. -/
theorem ReadsOnly.list (readsOnly : ReadsOnly decoder toJson) :
    ReadsOnly (list decoder) fun results => .array (results.map toJson) := by
  intro json gap text rest results after blank spells read
  obtain ⟨inside, behind, opened, readInside, closes⟩ := list_eq_ok_iff.mp read
  obtain ⟨c, more, rfl, kind⟩ := spells.exists_kindOf
  rw [skipGap_spelled blank spells] at opened
  obtain ⟨rfl, rfl⟩ := List.cons.inj opened
  cases json with
  | array jsons =>
      cases spells with
      | array inside =>
          obtain ⟨rfl, rfl⟩ := readsOnly.elements inside readInside
          rw [closeList_bracket] at closes
          exact ⟨rfl, (Except.ok.inj closes).symm⟩
  | _ => cases kind

end DeadSymbols.Json
