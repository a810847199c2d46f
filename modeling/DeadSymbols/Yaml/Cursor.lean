/-!
Contract: a place in a YAML text, and the classes of its characters.

Blanks are the space and the tab. Lines end at a carriage return, a line feed, both in this
order, or one of U+0085, U+2028 and U+2029. The first three and U+0085 read as a line feed.
-/

namespace DeadSymbols.Yaml

/-- A blank inside a line. -/
def isBlank (c : Char) : Bool := c = ' ' || c = '\t'

/-- A character that ends a line. -/
def isBreak (c : Char) : Bool :=
  c = '\n' || c = '\r' || c = '\u0085' || c = '\u2028' || c = '\u2029'

/-- A character of names and handles. -/
def isWordChar (c : Char) : Bool := c.isAlphanum || c = '_' || c = '-'

/-- Whether a text starts with a blank or a break, or is at its end. -/
def endsWord : List Char → Bool
  | [] => true
  | c :: _ => isBlank c || isBreak c

/-- Whether a line is over here. -/
def endsLine : List Char → Bool
  | [] => true
  | c :: _ => isBreak c

/-- A character that a YAML text may hold. -/
def isAllowed (c : Char) : Bool :=
  let n := c.toNat
  n = 0x09 || n = 0x0A || n = 0x0D || (0x20 ≤ n && n ≤ 0x7E) || n = 0x85 ||
    (0xA0 ≤ n && n ≤ 0xD7FF) || (0xE000 ≤ n && n ≤ 0xFFFD) || 0x10000 ≤ n

/-- A place in a text: what follows it, where it is, and the length of the text. -/
structure Cursor where
  rest : List Char
  size : Nat
  index : Nat
  line : Nat
  column : Nat
deriving Repr

namespace Cursor

/-- The start of a text. -/
def start (text : List Char) : Cursor :=
  { rest := text, size := text.length, index := 0, line := 0, column := 0 }

/-- More steps than there are characters left. -/
def steps (cursor : Cursor) : Nat := cursor.size + 1

/-- The place after a number of characters of the same line. -/
def advance (cursor : Cursor) (count : Nat) : Cursor :=
  { cursor with
    rest := cursor.rest.drop count
    index := cursor.index + count
    column := cursor.column + count }

/-- The place after the next character. -/
def skip (cursor : Cursor) : Cursor := cursor.advance 1

/-- The place after the characters of a class. -/
def skipWhile (cursor : Cursor) (isMember : Char → Bool) : Cursor :=
  cursor.advance (cursor.rest.takeWhile isMember).length

/-- The place after the rest of the line, before its end. -/
def skipLineText (cursor : Cursor) : Cursor := cursor.skipWhile (!isBreak ·)

/-- The end of the line here: how it reads, and the place after it. -/
def lineBreak? (cursor : Cursor) : Option (Char × Cursor) :=
  let next (rest : List Char) (width : Nat) : Cursor :=
    { cursor with rest, index := cursor.index + width, line := cursor.line + 1, column := 0 }
  match cursor.rest with
  | '\r' :: '\n' :: rest => some ('\n', next rest 2)
  | c :: rest =>
    if c = '\u2028' || c = '\u2029' then some (c, next rest 1)
    else if isBreak c then some ('\n', next rest 1)
    else none
  | [] => none

/-- Whether the character here is the given one. -/
def sees (cursor : Cursor) (c : Char) : Bool := cursor.rest.head? = some c

/-- Whether a mark of three characters stands here alone at the start of a line. -/
def seesMark (cursor : Cursor) (c : Char) : Bool :=
  cursor.column = 0 && cursor.rest.take 3 = [c, c, c] && endsWord (cursor.rest.drop 3)

/-- Whether the start or the end of a document is marked here. -/
def seesDocumentMark (cursor : Cursor) : Bool := cursor.seesMark '-' || cursor.seesMark '.'

end Cursor

end DeadSymbols.Yaml
