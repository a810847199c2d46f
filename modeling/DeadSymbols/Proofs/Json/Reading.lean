import DeadSymbols.Proofs.Json.Spelling
import DeadSymbols.Proofs.Ordered
import Mathlib.Data.List.Forall2

/-!
Contract: what decoders make of the texts of a value.

A decoder reads a value when it turns every text of the value into the same result, with the text
after it left over, whatever the layout is and whatever follows. Decoders of lists, maps and records
read what their parts read. For an object, what is read so far is a state that each member changes;
a record's state is its draft, and a map's state is the map of the members so far.

Owns: `Reads`, `ElementsText`, `Fills`, one law per decoder, whole texts.
Does not own: the records of the library (`Proofs.Codec`).
-/

namespace DeadSymbols.Json

variable {α β σ : Type} {gap text rest : List Char} {json : Value}

/-- The decoder turns every text of a value into a result, and leaves what follows. -/
def Reads (decoder : Decoder α) (json : Value) (result : α) : Prop :=
  ∀ gap text rest, Gap gap → Spells json text → decoder (gap ++ (text ++ rest)) = .ok (result, rest)

theorem skipGap_spelled (blank : Gap gap) (spells : Spells json text) (rest : List Char) :
    skipGap (gap ++ (text ++ rest)) = text ++ rest := by
  obtain ⟨c, more, rfl, token, _⟩ := spells.head
  exact skipGap_token blank token

/-! ### Scalars -/

theorem reads_stringAs (expected value : String) :
    Reads (stringAs expected) (.string value) value := by
  intro gap text rest blank spells
  rw [stringAs, skipGap_spelled blank spells]
  cases spells with
  | string =>
      show (readString (value.toList.flatMap escapeChar ++ ['"'] ++ rest)).map _ = _
      rw [List.append_assoc, List.singleton_append, readString_written]
      simp [Except.map]

theorem reads_string (value : String) : Reads string (.string value) value :=
  reads_stringAs "a string" value

theorem reads_boolean (value : Bool) : Reads boolean (.boolean value) value := by
  intro gap text rest blank spells
  rw [boolean, skipGap_spelled blank spells]
  cases spells with
  | boolean =>
      cases value with
      | true => rfl
      | false => rfl

/-- A value that is not `null` is read as one that is present. -/
theorem Reads.optional {decoder : Decoder α} {result : α} (reads : Reads decoder json result)
    (present : json ≠ .null) : Reads (optional decoder) json (some result) := by
  intro gap text rest blank spells
  obtain ⟨c, more, rfl, _, notNull⟩ := spells.head
  rw [Json.optional, skipGap_spelled blank spells]
  have direct := reads [] (c :: more) rest gap_nil spells
  split
  · rename_i same
    exact absurd (List.cons.inj same).1 (notNull present)
  · rw [show decoder (c :: more ++ rest) = _ from direct]
    rfl

theorem reads_variant {variants : List (String × α)} {name : String} {result : α}
    (found : variants.lookup name = some result) : Reads (variant variants) (.string name) result := by
  intro gap text rest blank spells
  have named : stringAs "variant identifier" (text ++ rest) = .ok (name, rest) :=
    reads_stringAs "variant identifier" name [] text rest gap_nil spells
  rw [variant, skipGap_spelled blank spells]
  cases spells with
  | string =>
      show variantName variants (writeString name ++ rest) = _
      simp only [variantName, named, bind, Except.bind, found]
      rfl

/-! ### Lists -/

/-- Behind an element comes the comma, and white space after it. -/
theorem skipGap_lead {lead : List Char} (leads : Lead false lead) :
    ∃ after, Gap after ∧ ∀ rest, skipGap (lead ++ rest) = ',' :: (after ++ rest) := by
  obtain ⟨before, after, blankBefore, blankAfter, rfl⟩ := leads
  refine ⟨after, blankAfter, ?_⟩
  intro rest
  rw [List.append_assoc, List.cons_append,
    skipGap_append blankBefore (Text.stops_cons.mpr (by decide))]

theorem Spells.length_pos (spells : Spells json text) : 0 < text.length := by
  obtain ⟨c, more, rfl, _⟩ := spells.head
  exact Nat.zero_lt_succ _

theorem nextElement_close (first : Bool) (blank : Gap gap) (rest : List Char) :
    nextElement first (gap ++ ']' :: rest) = .ok (false, ']' :: rest) := by
  rw [nextElement, skipGap_append blank (Text.stops_cons.mpr (by decide))]
  rfl

theorem nextElement_token {first : Bool} {lead : List Char} (leads : Lead first lead) {c : Char}
    (token : isSeparator c = false) (rest : List Char) :
    nextElement first (lead ++ c :: rest) = .ok (true, c :: rest) := by
  cases first with
  | true =>
      rw [nextElement, skipGap_token leads token]
      split <;> simp_all [isSeparator]
  | false =>
      obtain ⟨after, blank, comma⟩ := skipGap_lead leads
      rw [nextElement, comma]
      simp only [Bool.false_eq_true, if_false, skipGap_token blank token]
      split <;> simp_all [isSeparator]

theorem nextElement_lead {first : Bool} {lead : List Char} (leads : Lead first lead)
    (spells : Spells json text) (rest : List Char) :
    nextElement first (lead ++ (text ++ rest)) = .ok (true, text ++ rest) := by
  obtain ⟨c, more, rfl, token, _⟩ := spells.head
  exact nextElement_token leads token (more ++ rest)

/-- The decoder reads the text as the result, whatever follows, and the text starts with a token. -/
def ReadsAs (decoder : Decoder α) (result : α) (text : List Char) : Prop :=
  (∃ c more, text = c :: more ∧ isSeparator c = false) ∧
    ∀ rest, decoder (text ++ rest) = .ok (result, rest)

/-- The text spells the elements of a list that are left, and the closing bracket. -/
inductive ElementsText (element : α → List Char → Prop) : Bool → List α → List Char → Prop where
  | close {first : Bool} {gap : List Char} (blank : Gap gap) :
      ElementsText element first [] (gap ++ [']'])
  | next {first : Bool} {lead text rest : List Char} {head : α} {tail : List α}
      (leads : Lead first lead) (here : element head text)
      (later : ElementsText element false tail rest) :
      ElementsText element first (head :: tail) (lead ++ (text ++ rest))

section Elements

variable {decoder : Decoder α} {first : Bool} {results : List α}

theorem ElementsText.length_lt (spelled : ElementsText (ReadsAs decoder) first results text) :
    results.length < text.length := by
  induction spelled with
  | close blank => simp
  | next leads here later inductionHypothesis =>
      obtain ⟨⟨c, more, rfl, _⟩, _⟩ := here
      simp only [List.length_cons, List.length_append]
      omega

/-- The elements of a list are read one after another, up to the closing bracket. -/
theorem ElementsText.read (spelled : ElementsText (ReadsAs decoder) first results text) {limit : Nat}
    (room : results.length < limit) (rest : List Char) :
    elements decoder limit first (text ++ rest) = .ok (results, ']' :: rest) := by
  induction spelled generalizing limit with
  | close blank =>
      obtain ⟨limit, rfl⟩ := Nat.exists_eq_add_one_of_ne_zero (Nat.ne_of_gt room)
      rw [List.append_assoc, elements, List.singleton_append, nextElement_close _ blank]
      rfl
  | @next _ lead text after _ _ leads here _ inductionHypothesis =>
      obtain ⟨limit, rfl⟩ := Nat.exists_eq_add_one_of_ne_zero (Nat.ne_of_gt (Nat.zero_lt_of_lt room))
      obtain ⟨⟨c, more, rfl, token⟩, reads⟩ := here
      have head := reads (after ++ rest)
      have tail := inductionHypothesis (Nat.lt_of_succ_lt_succ room)
      rw [List.cons_append] at head
      rw [List.append_assoc, List.append_assoc, List.cons_append, elements,
        nextElement_token leads token]
      simp only [bind, Except.bind, head, tail]
      rfl

theorem ElementsText.read_list (spelled : ElementsText (ReadsAs decoder) true results text)
    (blank : Gap gap) (rest : List Char) :
    list decoder (gap ++ '[' :: (text ++ rest)) = .ok (results, rest) := by
  have room : results.length < (text ++ rest).length + 1 := by
    have short := spelled.length_lt
    rw [List.length_append]
    omega
  rw [list, skipGap_token blank (by decide)]
  simp only [spelled.read room, bind, Except.bind]
  rfl

theorem SpellsElements.elementsText {jsons : List Value} (spells : SpellsElements first jsons text)
    (reads : List.Forall₂ (Reads decoder) jsons results) :
    ElementsText (ReadsAs decoder) first results text := by
  induction reads generalizing first text with
  | nil =>
      cases spells with
      | close blank => exact .close blank
  | cons readsHead _ inductionHypothesis =>
      cases spells with
      | next leads here later =>
          obtain ⟨c, more, starts, token, _⟩ := here.head
          have readsHere := fun rest => readsHead [] _ rest gap_nil here
          exact .next leads ⟨⟨c, more, starts, token⟩, readsHere⟩ (inductionHypothesis later)

theorem reads_list {jsons : List Value} (reads : List.Forall₂ (Reads decoder) jsons results) :
    Reads (list decoder) (.array jsons) results := by
  intro gap text rest blank spells
  cases spells with
  | array inside => exact (inside.elementsText reads).read_list blank rest

end Elements

/-- Names are read back as they are written. -/
theorem reads_strings (names : List String) : Reads (list string) (strings names) names := by
  apply reads_list
  rw [List.forall₂_map_left_iff, List.forall₂_same]
  exact fun name _ => reads_string name

theorem reads_nameSet (names : NameSet) : Reads nameSet (strings names.toList) names := by
  intro gap text rest blank spells
  have same : NameSet.ofList names.toList = names := NameSet.ext fun _ => NameSet.mem_ofList
  rw [nameSet, reads_strings names.toList gap text rest blank spells]
  simp only [Except.map, same]

/-! ### Objects -/

/-- What a member does to the state of an object: its key is read already, its colon is not. -/
def Takes (member : σ → String → Decoder σ) (before : σ) (key : String) (json : Value) (after : σ) :
    Prop :=
  ∀ gap lead text rest, Gap gap → Gap lead → Spells json text → Delimited rest →
    member before key (gap ++ ':' :: (lead ++ (text ++ rest))) = .ok (after, rest)

/-- The members of an object, one after another, lead from one state to another. -/
inductive Fills (member : σ → String → Decoder σ) : σ → List (String × Value) → σ → Prop where
  | nil (state : σ) : Fills member state [] state
  | cons {before middle after : σ} {key : String} {json : Value} {tail : List (String × Value)}
      (takes : Takes member before key json middle) (later : Fills member middle tail after) :
      Fills member before ((key, json) :: tail) after

theorem Fills.append {member : σ → String → Decoder σ} {before middle after : σ}
    {front back : List (String × Value)} (first : Fills member before front middle)
    (second : Fills member middle back after) : Fills member before (front ++ back) after := by
  induction first with
  | nil => exact second
  | cons takes _ inductionHypothesis => exact .cons takes (inductionHypothesis second)

theorem SpellsMembers.length_lt {first : Bool} {members : List (String × Value)}
    (spells : SpellsMembers first members text) : members.length < text.length := by
  induction members generalizing first text with
  | nil =>
      cases spells with
      | close blank => simp
  | cons head tail inductionHypothesis =>
      cases spells with
      | next key leads blankBefore blankAfter here later =>
          have rest := inductionHypothesis later
          simp only [List.length_cons, List.length_append]
          omega

theorem nextKey_close (first : Bool) (blank : Gap gap) (rest : List Char) :
    nextKey first (gap ++ '\x7d' :: rest) = .ok (false, '\x7d' :: rest) := by
  rw [nextKey, skipGap_append blank (Text.stops_cons.mpr (by decide))]
  rfl

theorem nextKey_lead {first : Bool} {lead : List Char} (leads : Lead first lead)
    (rest : List Char) : nextKey first (lead ++ '"' :: rest) = .ok (true, rest) := by
  cases first with
  | true =>
      rw [nextKey, skipGap_append leads (Text.stops_cons.mpr (by decide))]
      rfl
  | false =>
      obtain ⟨after, blank, comma⟩ := skipGap_lead leads
      rw [nextKey, comma]
      simp only [Bool.false_eq_true, if_false,
        skipGap_append blank (Text.stops_cons.mpr (by decide : isGap '"' = false))]

/-- The members of an object are read one after another, up to the closing brace. -/
theorem members_spelled {member : σ → String → Decoder σ} {before after : σ}
    {jsons : List (String × Value)} (fills : Fills member before jsons after) {first : Bool}
    {limit : Nat} (spells : SpellsMembers first jsons text) (room : jsons.length < limit)
    (rest : List Char) :
    members member limit first before (text ++ rest) = .ok (after, '\x7d' :: rest) := by
  induction fills generalizing first text limit with
  | nil =>
      obtain ⟨limit, rfl⟩ := Nat.exists_eq_add_one_of_ne_zero (Nat.ne_of_gt room)
      cases spells with
      | close blank =>
          rw [List.append_assoc, members, List.singleton_append, nextKey_close first blank]
          rfl
  | @cons _ _ _ key _ _ takes _ inductionHypothesis =>
      obtain ⟨limit, rfl⟩ := Nat.exists_eq_add_one_of_ne_zero (Nat.ne_of_gt (Nat.zero_lt_of_lt room))
      cases spells with
      | @next _ lead gap blank text more _ _ _ leads blankBefore blankAfter here later =>
          have taken := takes gap blank text (more ++ rest) blankBefore blankAfter here
            (later.delimited rest)
          have tail := inductionHypothesis later (Nat.lt_of_succ_lt_succ room)
          have shape : lead ++ (writeString key ++ (gap ++ ':' :: (blank ++ (text ++ more)))) ++ rest =
              lead ++ '"' :: (key.toList.flatMap escapeChar ++
                '"' :: (gap ++ ':' :: (blank ++ (text ++ (more ++ rest))))) := by
            simp [writeString]
          rw [shape, members, nextKey_lead leads]
          simp only [bind, Except.bind, readString_written, String.ofList_toList, taken, tail, if_true]

theorem colon_append (blank : Gap gap) (rest : List Char) : colon (gap ++ ':' :: rest) = .ok rest := by
  rw [colon, skipGap_append blank (Text.stops_cons.mpr (by decide))]
  rfl

/-! ### Maps -/

/-- A member of a map puts its value under its key. -/
def mapMember (value : Decoder β) (map : NameMap β) (key : String) : Decoder (NameMap β) :=
  fun text => do
    let (found, text) ← value (← colon text)
    return (map.set key found, text)

theorem Reads.takes_mapMember {decoder : Decoder β} {result : β} (reads : Reads decoder json result)
    (map : NameMap β) (key : String) :
    Takes (mapMember decoder) map key json (map.set key result) := by
  intro gap lead text rest blank blankLead spells _
  simp only [mapMember, colon_append blank, reads lead text rest blankLead spells, bind, Except.bind]
  rfl

theorem reads_nameMap {decoder : Decoder β} {jsons : List (String × Value)} {map : NameMap β}
    (fills : Fills (mapMember decoder) ∅ jsons map) :
    Reads (nameMap decoder) (.object jsons) map := by
  intro gap text rest blank spells
  rw [nameMap, skipGap_spelled blank spells]
  cases spells with
  | @object _ text inside =>
      have room : jsons.length < (text ++ rest).length + 1 := by
        have short := inside.length_lt
        rw [List.length_append]
        omega
      show Except.bind
        (members (mapMember decoder) ((text ++ rest).length + 1) true ∅ (text ++ rest)) _ = _
      rw [members_spelled fills inside room]
      rfl

/-! ### Records -/

/-- A field that the draft does not have yet is read into it. -/
theorem Shape.takes_member {shape : Shape σ} {field : RecordField σ} {draft : σ} {update : σ → σ}
    (found : shape.fields.find? (·.name = field.name) = some field)
    (fresh : field.isSet draft = false) (reads : Reads field.read json update) :
    Takes shape.member draft field.name json (update draft) := by
  intro gap lead text rest blank blankLead spells _
  simp only [Shape.member, found, fresh, colon_append blank,
    reads lead text rest blankLead spells, bind, Except.bind]
  rfl

theorem reads_record {shape : Shape σ} {jsons : List (String × Value)} {draft : σ}
    (fills : Fills shape.member shape.start jsons draft) (complete : shape.missing? draft = none) :
    Reads (record shape) (.object jsons) draft := by
  intro gap text rest blank spells
  rw [record, skipGap_spelled blank spells]
  cases spells with
  | @object _ text inside =>
      have room : jsons.length < (text ++ rest).length + 1 := by
        have short := inside.length_lt
        rw [List.length_append]
        omega
      simp only [List.cons_append, members_spelled fills inside room, complete, bind, Except.bind]
      rfl

/-! ### Whole texts -/

/-- A text of a value, with white space around it, is decoded to what the decoder reads. -/
theorem Reads.decode {decoder : Decoder α} {result : α} (reads : Reads decoder json result)
    {before after : List Char} (blankBefore : Gap before) (spells : Spells json text)
    (blankAfter : Gap after) : decode decoder (before ++ (text ++ after)) = .ok result := by
  have nothing : skipGap after = [] := by
    have skipped := skipGap_append blankAfter Text.stops_nil
    rwa [List.append_nil] at skipped
  simp only [Json.decode, reads before text after blankBefore spells, bind, Except.bind, nothing]
  rfl

theorem Reads.decode_compact {decoder : Decoder α} {result : α} (reads : Reads decoder json result) :
    Json.decode decoder json.compact = .ok result := by
  have whole := reads.decode gap_nil (spells_compact json) gap_nil
  rwa [List.nil_append, List.append_nil] at whole

end DeadSymbols.Json
