import DeadSymbols.Yaml.Token

/-!
Contract: the tokens of a YAML text.

Indentation opens and closes blocks outside brackets. A mapping's key is known by the colon after
it only, so every place where a key may start is kept until the colon is found or the key cannot
end any more: a key stands on one line and is at most 1024 characters long. Once the colon is
found, the key's token is put in at the place where the key started.
-/

namespace DeadSymbols.Yaml

/-- A place where a key may have started. -/
structure KeyPlace where
  /-- The number of tokens before it. -/
  position : Nat
  /-- Whether nothing but a key can stand there. -/
  required : Bool
  index : Nat
  line : Nat
  column : Nat
deriving Repr

/-- The longest key. -/
def longestKey : Nat := 1024

/-- Whether a key that started at a place can no longer end at the cursor. -/
def KeyPlace.isPast (place : KeyPlace) (cursor : Cursor) : Bool :=
  place.line < cursor.line || place.index + longestKey < cursor.index

/-- What is known while a text is read. -/
structure Reading where
  cursor : Cursor
  /-- The tokens so far, the last first. -/
  tokens : List Token
  /-- The number of tokens. -/
  count : Nat
  /-- The indentation of the innermost block, and of those around it. -/
  indent : Int
  outer : List Int
  /-- The place of a possible key at each bracket level, the innermost first. -/
  keys : List (Option KeyPlace)
  /-- Whether a key may start here. -/
  keyAllowed : Bool
deriving Repr

namespace Reading

/-- The start of a text. -/
def start (text : List Char) : Reading :=
  { cursor := Cursor.start text, tokens := [], count := 0, indent := -1, outer := [], keys := [none]
    keyAllowed := true }

/-- Whether brackets are open. -/
def inFlow (reading : Reading) : Bool := 1 < reading.keys.length

/-- Adds a token. -/
def emit (reading : Reading) (token : Token) : Reading :=
  { reading with tokens := token :: reading.tokens, count := reading.count + 1 }

/-- Puts a token in at a position. -/
def insertAt (reading : Reading) (position : Nat) (token : Token) : Reading :=
  { reading with
    tokens := reading.tokens.insertIdx (reading.count - position) token
    count := reading.count + 1 }

/-- Moves the cursor. -/
def moveTo (reading : Reading) (cursor : Cursor) : Reading := { reading with cursor }

/-- Says whether a key may start at the next token. -/
def allowKey (reading : Reading) (allowed : Bool) : Reading :=
  { reading with keyAllowed := allowed }

/-- Gives up the possible key of this level. A required key cannot be given up. -/
def dropKey (reading : Reading) : Option Reading :=
  match reading.keys with
  | some place :: rest =>
    if place.required then none else some { reading with keys := none :: rest }
  | _ => some reading

/-- Keeps the cursor's place as the start of a possible key. -/
def markKey (reading : Reading) : Option Reading :=
  if reading.keyAllowed then do
    let cursor := reading.cursor
    let required := !reading.inFlow && reading.indent = cursor.column
    let reading ← reading.dropKey
    let place : KeyPlace :=
      { position := reading.count, required
        index := cursor.index, line := cursor.line, column := cursor.column }
    return { reading with keys := some place :: reading.keys.drop 1 }
  else some reading

/-- Gives up the possible keys that can no longer end here. -/
def dropPastKeys (reading : Reading) : Option Reading := do
  let keys ← reading.keys.mapM fun place =>
    match place with
    | some place =>
      if place.isPast reading.cursor then if place.required then none else some none
      else some (some place)
    | none => some none
  return { reading with keys }

/-- Opens a block at a column, if that is deeper than the innermost block. Its token goes to the
given position. -/
def openBlock (reading : Reading) (column : Nat) (position : Nat) (token : Token) : Reading :=
  if !reading.inFlow && reading.indent < column then
    { reading.insertAt position token with
      indent := column, outer := reading.indent :: reading.outer }
  else reading

/-- Opens a block at the cursor. -/
def openBlockHere (reading : Reading) (token : Token) : Reading :=
  reading.openBlock reading.cursor.column reading.count token

/-- Closes the blocks that are deeper than a column, from the innermost outwards. -/
def closeFrom (column : Int) : List Int → Reading → Reading
  | [], reading => reading
  | around :: outer, reading =>
    if column < reading.indent then
      closeFrom column outer
        { reading.emit .blockEnd with indent := around, outer }
    else reading

/-- Closes the blocks that are deeper than a column. Inside brackets none is closed. -/
def closeBlocks (reading : Reading) (column : Int) : Reading :=
  if reading.inFlow then reading else closeFrom column reading.outer reading

/-- Skips blanks, comments and line ends. Tabs are skipped where no key may start. -/
def skipSpace : Nat → Reading → Reading
  | 0, reading => reading
  | fuel + 1, reading =>
    let cursor := reading.cursor
    let cursor := if cursor.column = 0 && cursor.sees '\ufeff' then cursor.skip else cursor
    let tabs := reading.inFlow || !reading.keyAllowed
    let cursor := cursor.skipWhile fun c => c = ' ' || (tabs && c = '\t')
    let cursor := if cursor.sees '#' then cursor.skipLineText else cursor
    match cursor.lineBreak? with
    | some (_, next) =>
      skipSpace fuel { reading with
        cursor := next, keyAllowed := reading.keyAllowed || !reading.inFlow }
    | none => reading.moveTo cursor

/-! ### Tokens, one at a time -/

/-- Reads the mark of a document's start or end. -/
def documentMark (reading : Reading) (token : Token) : Option Reading := do
  let reading ← (reading.closeBlocks (-1)).dropKey
  return (reading.allowKey false |>.emit token).moveTo (reading.cursor.advance 3)

/-- Reads a directive. -/
def directive (reading : Reading) : Option Reading := do
  let reading ← (reading.closeBlocks (-1)).dropKey
  let (token, after) ← directive? reading.cursor.skip
  return (reading.allowKey false |>.emit token).moveTo after

/-- Reads an opening bracket. -/
def openFlow (reading : Reading) (token : Token) : Option Reading := do
  let reading ← reading.markKey
  let reading := { reading with keys := none :: reading.keys }
  return (reading.allowKey true |>.emit token).moveTo reading.cursor.skip

/-- Reads a closing bracket. -/
def closeFlow (reading : Reading) (token : Token) : Option Reading := do
  let reading ← reading.dropKey
  let reading := if reading.inFlow then { reading with keys := reading.keys.drop 1 } else reading
  return (reading.allowKey false |>.emit token).moveTo reading.cursor.skip

/-- Reads a comma between brackets. -/
def flowEntry (reading : Reading) : Option Reading := do
  let reading ← reading.dropKey
  return (reading.allowKey true |>.emit .flowEntry).moveTo reading.cursor.skip

/-- Reads the dash of a list entry. -/
def blockEntry (reading : Reading) : Option Reading := do
  if !reading.inFlow && !reading.keyAllowed then none
  let reading ← (reading.openBlockHere .blockSequenceStart).dropKey
  return (reading.allowKey true |>.emit .blockEntry).moveTo reading.cursor.skip

/-- Reads the question mark before a key. -/
def keyMark (reading : Reading) : Option Reading := do
  if !reading.inFlow && !reading.keyAllowed then none
  let reading ← (reading.openBlockHere .blockMappingStart).dropKey
  return (reading.allowKey (!reading.inFlow) |>.emit .key).moveTo reading.cursor.skip

/-- Reads the colon before a value. -/
def valueMark (reading : Reading) : Option Reading := do
  let reading ←
    match reading.keys with
    | some place :: rest =>
      let keyed := { reading.insertAt place.position .key with keys := none :: rest }
      pure ((keyed.openBlock place.column place.position .blockMappingStart).allowKey false)
    | _ =>
      if reading.inFlow then pure (reading.allowKey false)
      else if reading.keyAllowed then
        pure ((reading.openBlockHere .blockMappingStart).allowKey true)
      else none
  return (reading.emit .value).moveTo reading.cursor.skip

/-- Reads an anchor or an alias. -/
def anchor (reading : Reading) (token : List Char → Token) : Option Reading := do
  let reading ← reading.markKey
  let (name, after) ← anchorName? reading.cursor.skip
  return (reading.allowKey false |>.emit (token name)).moveTo after

/-- Reads a tag. -/
def tag (reading : Reading) : Option Reading := do
  let reading ← reading.markKey
  let (token, after) ← tag? reading.inFlow reading.cursor
  return (reading.allowKey false |>.emit token).moveTo after

/-- Reads a block scalar. -/
def blockScalar (reading : Reading) (literal : Bool) : Option Reading := do
  let reading ← reading.dropKey
  let (text, after) ← block literal reading.indent reading.cursor.skip
  let token := Token.scalar (if literal then .literal else .folded) text
  return (reading.allowKey true |>.emit token).moveTo after

/-- Reads a quoted scalar. -/
def quotedScalar (reading : Reading) (single : Bool) : Option Reading := do
  let reading ← reading.markKey
  let (text, after) ← quoted single reading.cursor.skip
  let token := Token.scalar (if single then .singleQuoted else .doubleQuoted) text
  return (reading.allowKey false |>.emit token).moveTo after

/-- Reads a plain scalar. After a line end a key may start again. -/
def plainScalar (reading : Reading) : Option Reading := do
  let reading ← reading.markKey
  let scalar ← plain reading.inFlow (reading.indent + 1) reading.cursor
  return (reading.allowKey scalar.broken |>.emit (.scalar .plain scalar.text)).moveTo scalar.after

/-- The characters that do not start a plain scalar. -/
def isIndicator (c : Char) : Bool :=
  ['-', '?', ':', ',', '[', ']', '\x7b', '\x7d', '#', '&', '*', '!', '|', '>', '\'', '"', '%',
    '@', '\x60'].contains c

/-- Whether a plain scalar starts with a character, before what follows it. -/
def startsPlain (inFlow : Bool) (c : Char) (rest : List Char) : Bool :=
  let beforeBlank := (rest.head?.map isBlank).getD false
  !(isIndicator c || isBlank c || isBreak c) || (c = '-' && !beforeBlank) ||
    (!inFlow && (c = '?' || c = ':') && !endsWord rest)

/-- Reads the next token, at a character and before what follows it. -/
def token (reading : Reading) (c : Char) (rest : List Char) : Option Reading :=
  let cursor := reading.cursor
  let alone := endsWord rest
  if cursor.column = 0 && c = '%' then reading.directive
  else if cursor.seesMark '-' then reading.documentMark .documentStart
  else if cursor.seesMark '.' then reading.documentMark .documentEnd
  else if c = '[' then reading.openFlow .flowSequenceStart
  else if c = '\x7b' then reading.openFlow .flowMappingStart
  else if c = ']' then reading.closeFlow .flowSequenceEnd
  else if c = '\x7d' then reading.closeFlow .flowMappingEnd
  else if c = ',' then reading.flowEntry
  else if c = '-' && alone then reading.blockEntry
  else if c = '?' && (reading.inFlow || alone) then reading.keyMark
  else if c = ':' && (reading.inFlow || alone) then reading.valueMark
  else if c = '*' then reading.anchor .alias
  else if c = '&' then reading.anchor .anchor
  else if c = '!' then reading.tag
  else if c = '|' && !reading.inFlow then reading.blockScalar true
  else if c = '>' && !reading.inFlow then reading.blockScalar false
  else if c = '\'' then reading.quotedScalar true
  else if c = '"' then reading.quotedScalar false
  else if startsPlain reading.inFlow c rest then reading.plainScalar
  else none

/-- Reads all tokens up to the end of the text. -/
def all : Nat → Reading → Option (List Token)
  | 0, _ => none
  | fuel + 1, reading => do
    let reading ← (skipSpace reading.cursor.steps reading).dropPastKeys
    let reading := reading.closeBlocks reading.cursor.column
    match reading.cursor.rest with
    | [] =>
      let reading ← (reading.closeBlocks (-1)).dropKey
      return reading.tokens.reverse
    | c :: rest => all fuel (← reading.token c rest)

end Reading

/-- The tokens of a text. -/
def tokens? (text : List Char) : Option (List Token) :=
  if text.all isAllowed then Reading.all (text.length + 1) (Reading.start text) else none

end DeadSymbols.Yaml
