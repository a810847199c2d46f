import DeadSymbols.Proofs.Scan
import DeadSymbols.Report.Html

/-!
Contract: reading markup back.

An escaped text is decoded from left to right: an ampersand in it always opens an entity, and an entity
stands for one character. A page is cut at its brackets into tags, each with the text up to the next one.
As long as the brackets of its tags are the only ones, a page is read as the tags it was written from.

Owns: `decode` and the laws of `escape`, `Tag`, the tags of a page.
Does not own: which tags a page has (`Proofs.Report.Html`).
-/

namespace DeadSymbols.Report.Html

open DeadSymbols.Text

/-! ### Entities -/

/-- The entities, and the characters they stand for. -/
def entities : List (List Char × Char) :=
  [("&amp;".toList, '&'), ("&lt;".toList, '<'), ("&gt;".toList, '>'), ("&quot;".toList, '"'),
   ("&#39;".toList, '\'')]

/-- The decoded text after the given number of characters, which belong to an entity before them. -/
def decodeFrom : Nat → List Char → List Char
  | _, [] => []
  | skipped + 1, _ :: rest => decodeFrom skipped rest
  | 0, c :: rest =>
    match entities.find? fun entity => startsWith entity.1 (c :: rest) with
    | some entity => entity.2 :: decodeFrom (entity.1.length - 1) rest
    | none => c :: decodeFrom 0 rest

/-- The text with each entity replaced by its character, from left to right. -/
def decode (text : List Char) : List Char := decodeFrom 0 text

variable {entity : List Char × Char} {text rest : List Char}

theorem ampersand_mem_entities : ("&amp;".toList, '&') ∈ entities := List.mem_cons_self

/-- An entity starts with the one ampersand it has, and holds no other character that has an entity. -/
theorem entity_eq_cons (member : entity ∈ entities) :
    ∃ body, entity.1 = '&' :: body ∧ ∀ marked ∈ entities, marked.2 ∉ body := by
  have shape : entities.all (fun entity => entity.1.head? == some '&' &&
      entities.all fun marked => !entity.1.tail.contains marked.2) = true := by decide
  rw [List.all_eq_true] at shape
  obtain ⟨first, apart⟩ := Bool.and_eq_true_iff.mp (shape entity member)
  obtain ⟨body, isCons⟩ := List.head?_eq_some_iff.mp (beq_iff_eq.mp first)
  refine ⟨body, isCons, ?_⟩
  intro marked inTable
  simpa [isCons] using List.all_eq_true.mp apart marked inTable

/-- A character with an entity is written as that, and any other as itself. -/
theorem escapeChar_cases (c : Char) :
    (escapeChar c, c) ∈ entities ∨ escapeChar c = [c] ∧ ∀ marked ∈ entities, marked.2 ≠ c := by
  by_cases marked : c ∈ entities.map Prod.snd
  · left
    simp only [entities, List.map_cons, List.map_nil, List.mem_cons, List.not_mem_nil, or_false]
      at marked
    rcases marked with rfl | rfl | rfl | rfl | rfl <;> decide
  · right
    constructor
    · simp [entities] at marked
      simp [escapeChar, marked]
    · intro entity member same
      exact marked (List.mem_map.mpr ⟨entity, member, same⟩)

theorem escape_cons (c : Char) (text : List Char) :
    escape (c :: text) = escapeChar c ++ escape text := List.flatMap_cons

theorem decode_entity (member : entity ∈ entities) (rest : List Char) :
    decode (entity.1 ++ rest) = entity.2 :: decode rest := by
  simp only [entities, List.mem_cons, List.not_mem_nil, or_false] at member
  rcases member with rfl | rfl | rfl | rfl | rfl <;> rfl

theorem decode_cons {c : Char} (plain : c ≠ '&') (rest : List Char) :
    decode (c :: rest) = c :: decode rest := by
  have none : entities.find? (fun entity => startsWith entity.1 (c :: rest)) = none := by
    rw [List.find?_eq_none]
    intro entity member starts
    obtain ⟨body, shape, _⟩ := entity_eq_cons member
    rw [shape, startsWith_iff] at starts
    obtain ⟨_, same⟩ := starts
    exact plain (List.cons.inj same).1
  simp only [decode, decodeFrom, none]

/-- Decoding undoes escaping. -/
theorem decode_escape (text : List Char) : decode (escape text) = text := by
  induction text with
  | nil => rfl
  | cons c text inductionHypothesis =>
      rw [escape_cons]
      rcases escapeChar_cases c with member | ⟨itself, unmarked⟩
      · rw [decode_entity member, inductionHypothesis]
      · have plain : c ≠ '&' := (unmarked _ ampersand_mem_entities).symm
        rw [itself, List.singleton_append, decode_cons plain, inductionHypothesis]

/-- An escaped text holds none of the characters that have an entity, apart from the ampersand. -/
theorem not_mem_escape (member : entity ∈ entities) (other : entity.2 ≠ '&') (text : List Char) :
    entity.2 ∉ escape text := by
  intro written
  obtain ⟨c, _, inChar⟩ := List.mem_flatMap.mp written
  rcases escapeChar_cases c with isEntity | ⟨itself, unmarked⟩
  · obtain ⟨body, shape, apart⟩ := entity_eq_cons isEntity
    simp only at shape
    rw [shape, List.mem_cons] at inChar
    exact inChar.elim other (apart entity member)
  · rw [itself, List.mem_singleton] at inChar
    exact unmarked entity member inChar

/-- An ampersand in the written form of a character comes first there, and the form is an entity. -/
theorem escapeChar_eq_append {c : Char} {front back : List Char}
    (written : escapeChar c = front ++ '&' :: back) : front = [] ∧ (escapeChar c, c) ∈ entities := by
  have inside : '&' ∈ front ++ '&' :: back := List.mem_append_right _ List.mem_cons_self
  rcases escapeChar_cases c with isEntity | ⟨itself, unmarked⟩
  · obtain ⟨body, shape, apart⟩ := entity_eq_cons isEntity
    refine ⟨?_, isEntity⟩
    cases front with
    | nil => rfl
    | cons d front =>
        have inBody : body = front ++ '&' :: back := (List.cons.inj (shape.symm.trans written)).2
        exact absurd (inBody ▸ List.mem_append_right _ List.mem_cons_self)
          (apart _ ampersand_mem_entities)
  · rw [← written, itself, List.mem_singleton] at inside
    exact absurd inside (unmarked _ ampersand_mem_entities)

/-- An ampersand in an escaped text opens an entity. -/
theorem ampersand_opens_entity (text : List Char) :
    ∀ rest, '&' :: rest <:+ escape text → ∃ entity ∈ entities, entity.1 <+: '&' :: rest := by
  induction text with
  | nil =>
      intro rest ends
      exact absurd (List.suffix_nil.mp ends) (List.cons_ne_nil _ _)
  | cons c text inductionHypothesis =>
      intro rest ends
      obtain ⟨front, cut⟩ := ends
      rw [escape_cons, List.append_eq_append_iff] at cut
      -- The ampersand stands behind the first character, or at or in its written form.
      rcases cut with ⟨back, written, here⟩ | ⟨back, _, later⟩
      · cases back with
        | nil => exact inductionHypothesis rest ⟨[], here⟩
        | cons d back =>
            obtain ⟨rfl, rfl⟩ := List.cons.inj here
            obtain ⟨rfl, isEntity⟩ := escapeChar_eq_append written
            exact ⟨_, isEntity, escape text, by simp [written]⟩
      · exact inductionHypothesis rest ⟨back, later.symm⟩

/-! ### Tags -/

/-- A tag of a page, without its brackets, and the text up to the next one. -/
structure Tag where
  name : String
  text : List Char
deriving DecidableEq, Repr

namespace Tag

/-- The characters of a tag and its text. -/
def write (tag : Tag) : List Char := '<' :: (tag.name.toList ++ '>' :: tag.text)

/-- The tag whose opening bracket stands before the given text. -/
def read (text : List Char) : Tag :=
  { name := String.ofList (text.takeWhile (· != '>'))
    text := ((text.dropWhile (· != '>')).drop 1).takeWhile (· != '<') }

/-- A tag whose only brackets are those around its name. -/
structure Closed (tag : Tag) : Prop where
  name_open : '<' ∉ tag.name.toList
  name_close : '>' ∉ tag.name.toList
  text : '<' ∉ tag.text

theorem closed_iff {tag : Tag} :
    tag.Closed ↔ '<' ∉ tag.name.toList ∧ '>' ∉ tag.name.toList ∧ '<' ∉ tag.text :=
  ⟨fun closed => ⟨closed.name_open, closed.name_close, closed.text⟩,
    fun parts => ⟨parts.1, parts.2.1, parts.2.2⟩⟩

end Tag

/-- The tags of a page: one for each opening bracket. -/
def tags : List Char → List Tag
  | [] => []
  | c :: rest => if c = '<' then Tag.read rest :: tags rest else tags rest

theorem tags_append (plain : '<' ∉ text) (rest : List Char) : tags (text ++ rest) = tags rest := by
  induction text with
  | nil => rfl
  | cons c text inductionHypothesis =>
      rw [List.mem_cons, not_or] at plain
      rw [List.cons_append, tags, if_neg (Ne.symm plain.1), inductionHypothesis plain.2]

theorem Tag.Closed.read {tag : Tag} (closed : tag.Closed) (stops : Stops (· != '<') rest) :
    Tag.read (tag.name.toList ++ '>' :: (tag.text ++ rest)) = tag := by
  have inName : ∀ c ∈ tag.name.toList, (c != '>') = true := by
    intro c member
    exact bne_iff_ne.mpr fun same => closed.name_close (same ▸ member)
  have inText : ∀ c ∈ tag.text, (c != '<') = true := by
    intro c member
    exact bne_iff_ne.mpr fun same => closed.text (same ▸ member)
  have bracket : Stops (· != '>') ('>' :: (tag.text ++ rest)) := stops_cons.mpr (by decide)
  rw [Tag.read, takeWhile_append_stops inName bracket, dropWhile_append_stops inName bracket,
    List.drop_one, List.tail_cons, takeWhile_append_stops inText stops, String.ofList_toList]

theorem Tag.Closed.tags_write_append {tag : Tag} (closed : tag.Closed)
    (stops : Stops (· != '<') rest) : tags (tag.write ++ rest) = tag :: tags rest := by
  have shape : tag.write ++ rest = '<' :: (tag.name.toList ++ '>' :: (tag.text ++ rest)) := by
    simp [Tag.write]
  rw [shape, tags, if_pos rfl, closed.read stops, tags_append closed.name_open, tags,
    if_neg (by decide), tags_append closed.text]

/-- A text written as closed tags is read as these. -/
theorem tags_flatMap_write {written : List Tag} (closed : ∀ tag ∈ written, tag.Closed) :
    tags (written.flatMap Tag.write) = written := by
  induction written with
  | nil => rfl
  | cons tag written inductionHypothesis =>
      obtain ⟨here, later⟩ := List.forall_mem_cons.mp closed
      have stops : Stops (· != '<') (written.flatMap Tag.write) := by
        cases written with
        | nil => exact stops_nil
        | cons next written => exact stops_cons.mpr (by decide)
      rw [List.flatMap_cons, here.tags_write_append stops, inductionHypothesis later]

end DeadSymbols.Report.Html
