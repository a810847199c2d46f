import DeadSymbols.Json.Scalar
import DeadSymbols.Ordered.NameMap

/-!
Contract: reading a JSON text as a value of a given type.

A decoder reads from left to right and stops at the first problem, so of two problems the one
that stands first is reported. Lists, maps, records and variants are read token by token: a
record may come as an object with its fields in any order, or as an array of them in their
order; fields that the record does not have are skipped.

Owns: the decoders for scalars and collections, `Shape` (how a record is read), `decode`.
-/

namespace DeadSymbols.Json

/-- Reads a value at the start of a text, and gives the text after it. -/
abbrev Decoder (α : Type) : Type := List Char → Except Problem (α × List Char)

/-- The problem with a value that is not of the expected type. Scalars are read first, so that a
malformed one is reported as such. -/
def mismatch (expected : String) (text : List Char) : Problem :=
  let wrong (found : Found) : Problem := .invalidType found expected
  let afterReading (read : Except Problem Found) : Problem :=
    match read with
    | .ok found => wrong found
    | .error problem => problem
  match text with
  | 'n' :: rest => afterReading ((readWord "ull".toList rest).map fun _ => .null)
  | 't' :: rest => afterReading ((readWord "rue".toList rest).map fun _ => .boolean true)
  | 'f' :: rest => afterReading ((readWord "alse".toList rest).map fun _ => .boolean false)
  | '"' :: rest =>
    afterReading ((readString rest).map fun (value, _) => .string (String.ofList value))
  | '[' :: _ => wrong .sequence
  | '\x7b' :: _ => wrong .map
  | '-' :: rest => afterReading ((readNumber true rest).map Prod.fst)
  | c :: _ =>
    if c.isDigit then afterReading ((readNumber false text).map Prod.fst) else .expectedValue
  | [] => .expectedValue

/-- Reads a string; `expected` names what the caller wants it for. -/
def stringAs (expected : String) : Decoder String := fun text =>
  match skipGap text with
  | [] => .error .endInValue
  | '"' :: rest => (readString rest).map fun (value, rest) => (String.ofList value, rest)
  | other => .error (mismatch expected other)

/-- Reads a string. -/
def string : Decoder String := stringAs "a string"

/-- Reads a boolean. -/
def boolean : Decoder Bool := fun text =>
  match skipGap text with
  | [] => .error .endInValue
  | 't' :: rest => (readWord "rue".toList rest).map fun rest => (true, rest)
  | 'f' :: rest => (readWord "alse".toList rest).map fun rest => (false, rest)
  | other => .error (mismatch "a boolean" other)

/-- Reads `null`. -/
def unit : Decoder Unit := fun text =>
  match skipGap text with
  | [] => .error .endInValue
  | 'n' :: rest => (readWord "ull".toList rest).map fun rest => ((), rest)
  | other => .error (mismatch "unit" other)

/-- Reads `null` as the absence of a value, and all else as a value. -/
def optional {α : Type} (value : Decoder α) : Decoder (Option α) := fun text =>
  match skipGap text with
  | 'n' :: rest => (readWord "ull".toList rest).map fun rest => (none, rest)
  | other => (value other).map fun (found, rest) => (some found, rest)

/-! ### Lists -/

/-- Moves to the next element of a list, if there is one; else to the closing bracket. -/
def nextElement (first : Bool) (text : List Char) : Except Problem (Bool × List Char) :=
  match skipGap text with
  | [] => .error .endInList
  | ']' :: rest => .ok (false, ']' :: rest)
  | ',' :: rest =>
    if first then .ok (true, ',' :: rest)
    else
      match skipGap rest with
      | [] => .error .endInValue
      | ']' :: _ => .error .trailingComma
      | element => .ok (true, element)
  | other => if first then .ok (true, other) else .error .expectedCommaInList

/-- Reads the closing bracket of a list. -/
def closeList (text : List Char) : Except Problem (List Char) :=
  match skipGap text with
  | [] => .error .endInList
  | ']' :: rest => .ok rest
  | ',' :: rest =>
    match skipGap rest with
    | ']' :: _ => .error .trailingComma
    | _ => .error .trailingCharacters
  | _ :: _ => .error .trailingCharacters

/-- Reads the elements of a list up to its closing bracket, at most `limit` of them. -/
def elements {α : Type} (element : Decoder α) : Nat → Bool → Decoder (List α)
  | 0, _, _ => .error .endInList
  | limit + 1, first, text => do
    let (more, text) ← nextElement first text
    if more then
      let (head, text) ← element text
      let (tail, text) ← elements element limit false text
      return (head :: tail, text)
    else return ([], text)

/-- Reads a list. A text has fewer elements than characters, which bounds the reading. -/
def list {α : Type} (element : Decoder α) : Decoder (List α) := fun text =>
  match skipGap text with
  | [] => .error .endInValue
  | '[' :: rest => do
    let (found, rest) ← elements element (rest.length + 1) true rest
    return (found, ← closeList rest)
  | other => .error (mismatch "a sequence" other)

/-- Reads a list as a set of names. -/
def nameSet : Decoder NameSet := fun text =>
  (list string text).map fun (names, rest) => (NameSet.ofList names, rest)

/-! ### Objects -/

/-- Moves to the next key of an object, just after its opening quote, if there is one; else to
the closing brace. -/
def nextKey (first : Bool) (text : List Char) : Except Problem (Bool × List Char) :=
  match skipGap text with
  | [] => .error .endInObject
  | '\x7d' :: rest => .ok (false, '\x7d' :: rest)
  | '"' :: rest => if first then .ok (true, rest) else .error .expectedCommaInObject
  | ',' :: rest =>
    if first then .error .keyNotString
    else
      match skipGap rest with
      | [] => .error .endInValue
      | '"' :: key => .ok (true, key)
      | '\x7d' :: _ => .error .trailingComma
      | _ => .error .keyNotString
  | _ => .error (if first then .keyNotString else .expectedCommaInObject)

/-- Reads the colon after a key. -/
def colon (text : List Char) : Except Problem (List Char) :=
  match skipGap text with
  | ':' :: rest => .ok rest
  | [] => .error .endInObject
  | _ => .error .expectedColon

/-- Reads the closing brace of an object. -/
def closeObject (text : List Char) : Except Problem (List Char) :=
  match skipGap text with
  | '\x7d' :: rest => .ok rest
  | [] => .error .endInObject
  | ',' :: _ => .error .trailingComma
  | _ => .error .trailingCharacters

/-- Reads the members of an object up to its closing brace, at most `limit` of them. What a key
asks for is read by `member`, which starts just after the key. -/
def members {σ : Type} (member : σ → String → Decoder σ) : Nat → Bool → σ → Decoder σ
  | 0, _, _, _ => .error .endInObject
  | limit + 1, first, state, text => do
    let (more, text) ← nextKey first text
    if more then
      let (key, text) ← readString text
      let (state, text) ← member state (String.ofList key) text
      members member limit false state text
    else return (state, text)

/-- Reads an object as a map. The last value of a repeated key is kept. -/
def nameMap {β : Type} (value : Decoder β) : Decoder (NameMap β) := fun text =>
  match skipGap text with
  | [] => .error .endInValue
  | '\x7b' :: rest => do
    let member (map : NameMap β) (key : String) : Decoder (NameMap β) := fun text => do
      let (found, text) ← value (← colon text)
      return (map.set key found, text)
    let (map, rest) ← members member (rest.length + 1) true ∅ rest
    return (map, ← closeObject rest)
  | other => .error (mismatch "a map" other)

/-! ### Skipping -/

/-- An open list or object while a value is skipped. -/
inductive Frame where
  | list
  | object
deriving DecidableEq, Repr

/-- The character that closes a list or an object. -/
def Frame.closing : Frame → Char
  | .list => ']'
  | .object => '\x7d'

/-- The problem of a text that ends inside a list or an object. -/
def Frame.cut : Frame → Problem
  | .list => .endInList
  | .object => .endInObject

/-- The problem of a missing comma in a list or an object. -/
def Frame.uncut : Frame → Problem
  | .list => .expectedCommaInList
  | .object => .expectedCommaInObject

/-- Moves from the start of an element to its value: past the key in an object. -/
def Frame.enter (frame : Frame) (text : List Char) : Except Problem (List Char) :=
  match frame with
  | .list => .ok text
  | .object =>
    match skipGap text with
    | '"' :: key => do colon (← skipString key)
    | [] => .error .endInObject
    | _ => .error .keyNotString

/-- Where skipping stands: before a value, or inside a list or object, just after its opening
bracket or after one of its elements. -/
inductive SkipState where
  | value
  | inside (frame : Frame) (afterElement : Bool)
deriving DecidableEq, Repr

/-- Skips a scalar, or enters a list or an object. -/
def skipStart (text : List Char) : Except Problem (Option Frame × List Char) :=
  let scalar (read : Except Problem (List Char)) : Except Problem (Option Frame × List Char) :=
    read.map fun rest => (none, rest)
  match skipGap text with
  | [] => .error .endInValue
  | 'n' :: rest => scalar (readWord "ull".toList rest)
  | 't' :: rest => scalar (readWord "rue".toList rest)
  | 'f' :: rest => scalar (readWord "alse".toList rest)
  | '"' :: rest => scalar (skipString rest)
  | '-' :: rest => scalar (skipNumber rest)
  | '[' :: rest => .ok (some .list, rest)
  | '\x7b' :: rest => .ok (some .object, rest)
  | c :: rest => if c.isDigit then scalar (skipNumber (c :: rest)) else .error .expectedValue

/-- Skips a value inside the open lists and objects `outer`, in at most `limit` steps. -/
def skipFrom : Nat → SkipState → List Frame → List Char → Except Problem (List Char)
  | 0, _, _, _ => .error .endInValue
  | limit + 1, .value, outer, text => do
    match ← skipStart text with
    | (some frame, rest) => skipFrom limit (.inside frame false) outer rest
    | (none, rest) =>
      match outer with
      | [] => return rest
      | frame :: outer => skipFrom limit (.inside frame true) outer rest
  | limit + 1, .inside frame afterElement, outer, text =>
    match skipGap text with
    | [] => .error frame.cut
    | c :: rest =>
      if c = ',' && afterElement then do
        skipFrom limit .value (frame :: outer) (← frame.enter rest)
      else if c = frame.closing then
        match outer with
        | [] => .ok rest
        | next :: outer => skipFrom limit (.inside next true) outer rest
      else if afterElement then .error frame.uncut
      else do skipFrom limit .value (frame :: outer) (← frame.enter (c :: rest))

/-- Skips a value. Two steps per character suffice. -/
def skipValue (text : List Char) : Except Problem (List Char) :=
  skipFrom (2 * text.length + 2) .value [] text

/-! ### Records -/

/-- A field of a record that is being read into a draft `σ`. -/
structure RecordField (σ : Type) where
  name : String
  /-- Whether the draft has a value for the field. -/
  isSet : σ → Bool
  /-- Whether the record cannot do without the field. -/
  required : Bool
  read : Decoder (σ → σ)

/-- How a record is read into a draft `σ`. -/
structure Shape (σ : Type) where
  /-- The record's name in messages. -/
  title : String
  start : σ
  fields : List (RecordField σ)

/-- The wording for a record that comes as an array. -/
def Shape.asArray {σ : Type} (shape : Shape σ) : String :=
  shape.title ++ " with " ++ toString shape.fields.length ++
    (if shape.fields.length = 1 then " element" else " elements")

/-- Reads the field of a key, or skips its value. A field may be given once. -/
def Shape.member {σ : Type} (shape : Shape σ) (draft : σ) (key : String) : Decoder σ := fun text =>
  match shape.fields.find? (·.name = key) with
  | some field =>
    if field.isSet draft then .error (.duplicateField field.name)
    else do
      let (update, text) ← field.read (← colon text)
      return (update draft, text)
  | none => do return (draft, ← skipValue (← colon text))

/-- The first required field that a draft lacks. -/
def Shape.missing? {σ : Type} (shape : Shape σ) (draft : σ) : Option String :=
  (shape.fields.find? fun field => field.required && !field.isSet draft).map RecordField.name

/-- Reads the elements of an array as the fields of a record, the first of them at `index`. -/
def Shape.positional {σ : Type} (shape : Shape σ) :
    List (RecordField σ) → Nat → Bool → σ → Decoder σ
  | [], _, _, draft, text => .ok (draft, text)
  | field :: rest, index, first, draft, text => do
    let (more, text) ← nextElement first text
    if more then
      let (update, text) ← field.read text
      shape.positional rest (index + 1) false (update draft) text
    else if field.required then .error (.invalidLength index shape.asArray)
    else shape.positional rest (index + 1) first draft text

/-- Reads a record. -/
def record {σ : Type} (shape : Shape σ) : Decoder σ := fun text =>
  match skipGap text with
  | [] => .error .endInValue
  | '[' :: rest => do
    let (draft, rest) ← shape.positional shape.fields 0 true shape.start rest
    return (draft, ← closeList rest)
  | '\x7b' :: rest => do
    let (draft, rest) ← members shape.member (rest.length + 1) true shape.start rest
    match shape.missing? draft with
    | some name => .error (.missingField name)
    | none => return (draft, ← closeObject rest)
  | other => .error (mismatch shape.title other)

/-! ### Variants -/

/-- Reads the name of a variant. -/
def variantName {α : Type} (variants : List (String × α)) : Decoder α := fun text => do
  let (name, rest) ← stringAs "variant identifier" text
  match variants.lookup name with
  | some variant => return (variant, rest)
  | none => .error (.unknownVariant name (variants.map Prod.fst))

/-- Reads one of several named variants: its name as a string, or as the only key of an object
with the value `null`. -/
def variant {α : Type} (variants : List (String × α)) : Decoder α := fun text =>
  match skipGap text with
  | [] => .error .endInValue
  | '"' :: rest => variantName variants ('"' :: rest)
  | '\x7b' :: rest => do
    let (found, rest) ← variantName variants rest
    let ((), rest) ← unit (← colon rest)
    match skipGap rest with
    | '\x7d' :: rest => return (found, rest)
    | [] => .error .endInObject
    | _ => .error .expectedValue
  | _ => .error .expectedValue

/-! ### Whole texts -/

/-- Reads a whole text as one value. -/
def decode {α : Type} (decoder : Decoder α) (text : List Char) : Except Problem α := do
  let (value, rest) ← decoder text
  match skipGap rest with
  | [] => return value
  | _ => .error .trailingCharacters

end DeadSymbols.Json
