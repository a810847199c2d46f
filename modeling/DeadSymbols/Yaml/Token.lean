import DeadSymbols.Text.Utf8
import DeadSymbols.Yaml.Scalar

/-!
Contract: the tokens of a YAML text that are neither brackets nor scalars: tags, anchors and
directives.
-/

namespace DeadSymbols.Yaml

/-- A piece of a YAML text, or a boundary that the indentation implies. -/
inductive Token where
  | version (major minor : Nat)
  | tagHandle (handle expansion : List Char)
  | documentStart
  | documentEnd
  | blockSequenceStart
  | blockMappingStart
  | blockEnd
  | flowSequenceStart
  | flowSequenceEnd
  | flowMappingStart
  | flowMappingEnd
  | blockEntry
  | flowEntry
  | key
  | value
  | alias (name : List Char)
  | anchor (name : List Char)
  | tag (handle suffix : List Char)
  | scalar (style : Style) (text : List Char)
deriving DecidableEq, Repr

/-- Reads the name of an anchor or an alias. -/
def anchorName? (cursor : Cursor) : Option (List Char × Cursor) :=
  let name := cursor.rest.takeWhile isWordChar
  let after := cursor.advance name.length
  let ends := endsWord after.rest ||
    ['?', ':', ',', ']', '\x7d', '%', '@', '\x60'].any after.sees
  if name.isEmpty || !ends then none else some (name, after)

/-! ### Tags -/

/-- Reads the handle of a tag: an exclamation mark, with a word and a second mark if there is
one. A word without a second mark is kept. -/
def handle? (cursor : Cursor) : Option (List Char × Cursor) :=
  if cursor.sees '!' then
    let word := cursor.skip.rest.takeWhile isWordChar
    let after := cursor.advance (word.length + 1)
    if after.sees '!' then some ('!' :: word ++ ['!'], after.skip)
    else some ('!' :: word, after)
  else none

/-- A character of a tag. Those of lists belong to it only where nothing else may follow. -/
def isTagChar (wide : Bool) (c : Char) : Bool :=
  isWordChar c ||
    [';', '/', '?', ':', '@', '&', '=', '+', '$', '.', '%', '!', '~', '*', '\'', '(', ')'].contains
      c ||
    (wide && [',', '[', ']'].contains c)

/-- The number of octets that the first octet of a character announces. -/
def octetCount? (octet : Nat) : Option Nat :=
  if octet < 0x80 then some 1
  else if octet / 0x20 = 0x6 then some 2
  else if octet / 0x10 = 0xE then some 3
  else if octet / 0x8 = 0x1E then some 4
  else none

/-- Reads an octet that is written as a percent sign and two digits. -/
def percentOctet? : List Char → Option (Nat × List Char)
  | '%' :: high :: low :: rest => (hexValue? [high, low]).map fun octet => (octet, rest)
  | _ => none

/-- Reads further octets of a character, each written with a percent sign. -/
def percentMore? : Nat → List Char → Option (List Nat × List Char)
  | 0, text => some ([], text)
  | count + 1, text => do
    let (octet, rest) ← percentOctet? text
    if octet / 0x40 ≠ 0x2 then none
    let (octets, rest) ← percentMore? count rest
    return (octet :: octets, rest)

/-- Reads a character of a tag that is written with percent signs. -/
def percentChar? (text : List Char) : Option (List Char × List Char) := do
  let (first, rest) ← percentOctet? text
  let count ← octetCount? first
  let (more, rest) ← percentMore? (count - 1) rest
  return (Text.decodeLossy ((first :: more).map UInt8.ofNat), rest)

/-- Reads the characters of a tag. -/
def tagText? (wide : Bool) : Nat → List Char → Option (List Char × List Char)
  | 0, _ => none
  | fuel + 1, text =>
    match text with
    | [] => some ([], [])
    | c :: rest =>
      if !isTagChar wide c then some ([], text)
      else do
        let (read, rest) ← if c = '%' then percentChar? text else some ([c], rest)
        let (more, rest) ← tagText? wide fuel rest
        return (read ++ more, rest)

/-- Reads the characters of a tag at a place. -/
def tagTextAt? (wide : Bool) (cursor : Cursor) : Option (List Char × Cursor) := do
  let (text, rest) ← tagText? wide cursor.steps cursor.rest
  return (text, cursor.advance (cursor.rest.length - rest.length))

/-- Reads a tag: its handle and its suffix. A tag in angle brackets has no handle, and neither
has the single mark. -/
def tag? (inFlow : Bool) (cursor : Cursor) : Option (Token × Cursor) := do
  let (token, after) ←
    if cursor.skip.sees '<' then do
      let (text, after) ← tagTextAt? true (cursor.advance 2)
      if text.isEmpty || !after.sees '>' then none
      else pure (Token.tag [] text, after.skip)
    else do
      let (handle, after) ← handle? cursor
      if 1 < handle.length && handle.getLast? = some '!' then do
        let (suffix, after) ← tagTextAt? false after
        if suffix.isEmpty then none else pure (Token.tag handle suffix, after)
      else do
        let (more, after) ← tagTextAt? false after
        let suffix := handle.drop 1 ++ more
        pure (if suffix.isEmpty then Token.tag [] ['!'] else Token.tag ['!'] suffix, after)
  if endsWord after.rest || (inFlow && after.sees ',') then return (token, after) else none

/-! ### Directives -/

/-- Reads a number of a version: at most nine digits. -/
def versionNumber? (cursor : Cursor) : Option (Nat × Cursor) :=
  let digits := cursor.rest.takeWhile Char.isDigit
  if digits.isEmpty || 9 < digits.length then none
  else
    some (digits.foldl (fun value c => value * 10 + (c.toNat - '0'.toNat)) 0,
      cursor.advance digits.length)

/-- Reads the version that a directive gives. -/
def versionValue? (cursor : Cursor) : Option (Token × Cursor) := do
  let (major, after) ← versionNumber? (cursor.skipWhile isBlank)
  if !after.sees '.' then none
  let (minor, after) ← versionNumber? after.skip
  return (.version major minor, after)

/-- Reads the handle that a directive defines, and what it stands for. -/
def tagHandleValue? (cursor : Cursor) : Option (Token × Cursor) := do
  let (handle, after) ← handle? (cursor.skipWhile isBlank)
  if handle ≠ ['!'] && handle.getLast? ≠ some '!' then none
  if !(after.rest.head?.map isBlank).getD false then none
  let (expansion, after) ← tagTextAt? true (after.skipWhile isBlank)
  if expansion.isEmpty || !endsWord after.rest then none
  return (.tagHandle handle expansion, after)

/-- Reads a directive from after its percent sign, to the end of its line. -/
def directive? (cursor : Cursor) : Option (Token × Cursor) := do
  let name := cursor.rest.takeWhile isWordChar
  let after := cursor.advance name.length
  if !endsWord after.rest then none
  let (token, after) ←
    if name = "YAML".toList then versionValue? after
    else if name = "TAG".toList then tagHandleValue? after
    else none
  let after := after.skipWhile isBlank
  let after := if after.sees '#' then after.skipLineText else after
  if !endsLine after.rest then none
  match after.lineBreak? with
  | some (_, next) => return (token, next)
  | none => return (token, after)

end DeadSymbols.Yaml
