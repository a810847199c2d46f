import DeadSymbols.Yaml.Cursor

/-!
Contract: the texts of scalars, plain, quoted and in blocks.

Every reader takes the place after what introduces the scalar and gives its text with the place
after it. Text over several lines is folded: one line end between two words reads as a blank, and
of several the first is dropped. Fuel bounds the number of lines; the length of the text is
always enough.
-/

namespace DeadSymbols.Yaml

/-- How a scalar is written. -/
inductive Style where
  | plain
  | singleQuoted
  | doubleQuoted
  | literal
  | folded
deriving DecidableEq, Repr

/-- What stands between two words of a scalar: blanks, or line ends. -/
inductive Gap where
  | blanks (text : List Char)
  /-- The first line end, unless it is escaped, and the further ones. -/
  | breaks (first : Option Char) (more : List Char)
deriving DecidableEq, Repr

/-- How a gap reads. -/
def Gap.text : Gap → List Char
  | .blanks text => text
  | .breaks (some '\n') [] => [' ']
  | .breaks (some '\n') more => more
  | .breaks (some first) more => first :: more
  | .breaks none more => more

/-- Whether a gap holds line ends. -/
def Gap.isBroken : Gap → Bool
  | .blanks _ => false
  | .breaks _ _ => true

/-- Reads a gap to its end. Within the first `indent` columns of a further line a tab is
refused. -/
def readGap (indent : Int) : Nat → Cursor → Gap → Option (Gap × Cursor)
  | 0, _, _ => none
  | fuel + 1, cursor, gap =>
    match cursor.lineBreak?, gap with
    | some (c, next), .blanks _ => readGap indent fuel next (.breaks (some c) [])
    | some (c, next), .breaks first more => readGap indent fuel next (.breaks first (more ++ [c]))
    | none, _ =>
      match cursor.rest, gap with
      | c :: _, .blanks text =>
        if isBlank c then readGap indent fuel cursor.skip (.blanks (text ++ [c]))
        else some (gap, cursor)
      | c :: _, .breaks _ _ =>
        if c = '\t' && (cursor.column : Int) < indent then none
        else if isBlank c then readGap indent fuel cursor.skip gap
        else some (gap, cursor)
      | [], _ => some (gap, cursor)

/-! ### Plain scalars -/

/-- The characters that end a plain scalar inside brackets. -/
def isFlowEnd (c : Char) : Bool := [',', '[', ']', '\x7b', '\x7d'].contains c

/-- The length of the word of a plain scalar here. Inside brackets a colon directly before one
of them is refused. -/
def plainWord? (inFlow : Bool) : List Char → Option Nat
  | [] => some 0
  | c :: rest =>
    let beforeBracket := match rest with
      | next :: _ => isFlowEnd next || next = '?'
      | [] => false
    if endsWord (c :: rest) then some 0
    else if inFlow && c = ':' && beforeBracket then none
    else if (c = ':' && endsWord rest) || (inFlow && isFlowEnd c) then some 0
    else (plainWord? inFlow rest).map (· + 1)

/-- A scalar that has been read. A plain one that ends after line ends is marked `broken`. -/
structure ScalarText where
  text : List Char
  broken : Bool
  after : Cursor

/-- Reads a plain scalar, word by word. -/
def plainFrom (inFlow : Bool) (indent : Int) :
    Nat → Cursor → List Char → Gap → Option ScalarText
  | 0, _, _, _ => none
  | fuel + 1, cursor, text, gap =>
    let finish (text : List Char) (gap : Gap) (after : Cursor) : Option ScalarText :=
      some { text, broken := gap.isBroken, after }
    if cursor.seesDocumentMark || cursor.sees '#' then finish text gap cursor
    else
      match plainWord? inFlow cursor.rest with
      | none => none
      | some 0 => finish text gap cursor
      | some length =>
        let text := text ++ gap.text ++ cursor.rest.take length
        let after := cursor.advance length
        match readGap indent after.steps after (.blanks []) with
        | none => none
        | some (gap, next) =>
          if next.index = after.index || (!inFlow && (next.column : Int) < indent) then
            finish text gap next
          else plainFrom inFlow indent fuel next text gap

/-- Reads a plain scalar. Outside brackets its lines are indented by at least `indent`. -/
def plain (inFlow : Bool) (indent : Int) (cursor : Cursor) : Option ScalarText :=
  plainFrom inFlow indent cursor.steps cursor [] (.blanks [])

/-! ### Quoted scalars -/

/-- The value of hexadecimal digits. -/
def hexValue? (digits : List Char) : Option Nat :=
  digits.foldlM (fun value c =>
    if c.isDigit then some (value * 16 + (c.toNat - '0'.toNat))
    else if 'a' ≤ c && c ≤ 'f' then some (value * 16 + (c.toNat - 'a'.toNat) + 10)
    else if 'A' ≤ c && c ≤ 'F' then some (value * 16 + (c.toNat - 'A'.toNat) + 10)
    else none) 0

/-- The character that hexadecimal digits name. -/
def hexChar? (digits : List Char) : Option Char := do
  let value ← hexValue? digits
  if (0xD800 ≤ value && value ≤ 0xDFFF) || 0x10FFFF < value then none
  else return Char.ofNat value

/-- The characters behind a backslash, and what each stands for. -/
def escapes : List (Char × Char) :=
  [('0', '\x00'), ('a', '\x07'), ('b', '\x08'), ('t', '\t'), ('\t', '\t'), ('n', '\n'),
   ('v', '\x0b'), ('f', '\x0c'), ('r', '\r'), ('e', '\x1b'), (' ', ' '), ('"', '"'), ('/', '/'),
   ('\\', '\\'), ('N', '\u0085'), ('_', '\u00a0'), ('L', '\u2028'), ('P', '\u2029')]

/-- The number of hexadecimal digits behind the letter of an escape. -/
def escapeWidth? (c : Char) : Option Nat :=
  if c = 'x' then some 2 else if c = 'u' then some 4 else if c = 'U' then some 8 else none

/-- The character of an escape, from what follows the backslash, and the escape's length. -/
def escape? : List Char → Option (Char × Nat)
  | [] => none
  | c :: rest =>
    match escapeWidth? c with
    | some width =>
      if rest.length < width then none
      else (hexChar? (rest.take width)).map fun value => (value, width + 2)
    | none => (escapes.lookup c).map fun value => (value, 2)

/-- A word of a quoted scalar: its text, its length in the source, and whether an escaped line
end follows. -/
structure QuotedWord where
  text : List Char
  length : Nat
  continued : Bool
deriving Repr

/-- The word with a character in front of it, written with a number of characters. -/
def QuotedWord.push (word : QuotedWord) (c : Char) (length : Nat) : QuotedWord :=
  { word with text := c :: word.text, length := word.length + length }

/-- Reads the word of a single-quoted scalar here. A quote is written twice. -/
def singleWord : List Char → QuotedWord
  | '\'' :: '\'' :: rest => (singleWord rest).push '\'' 2
  | c :: rest =>
    if c = '\'' || endsWord (c :: rest) then { text := [], length := 0, continued := false }
    else (singleWord rest).push c 1
  | [] => { text := [], length := 0, continued := false }

/-- Reads the word of a double-quoted scalar here. -/
def doubleWord? : Nat → List Char → Option QuotedWord
  | 0, _ => none
  | fuel + 1, text =>
    match text with
    | [] => some { text := [], length := 0, continued := false }
    | c :: rest =>
      if c = '"' || endsWord text then some { text := [], length := 0, continued := false }
      else if c = '\\' then
        match rest with
        | next :: _ =>
          if isBreak next then some { text := [], length := 0, continued := true }
          else do
            let (value, length) ← escape? rest
            return (← doubleWord? fuel (text.drop length)).push value length
        | [] => none
      else (doubleWord? fuel rest).map (·.push c 1)

/-- Reads a quoted scalar, word by word, up to the closing quote. -/
def quotedFrom (single : Bool) : Nat → Cursor → List Char → Option (List Char × Cursor)
  | 0, _, _ => none
  | fuel + 1, cursor, text =>
    if cursor.seesDocumentMark || cursor.rest.isEmpty then none
    else do
      let word ←
        if single then some (singleWord cursor.rest)
        else doubleWord? cursor.steps cursor.rest
      let text := text ++ word.text
      let after := cursor.advance word.length
      let (gap, after) ←
        if word.continued then
          after.skip.lineBreak?.map fun (_, next) => (Gap.breaks none [], next)
        else some (Gap.blanks [], after)
      if after.sees (if single then '\'' else '"') then return (text, after.skip)
      let (gap, next) ← readGap 0 after.steps after gap
      quotedFrom single fuel next (text ++ gap.text)

/-- Reads a quoted scalar from after its opening quote. -/
def quoted (single : Bool) (cursor : Cursor) : Option (List Char × Cursor) :=
  quotedFrom single cursor.steps cursor []

/-! ### Block scalars -/

/-- What becomes of the line ends at the end of a block. -/
inductive Chomping where
  | strip
  | clip
  | keep
deriving DecidableEq, Repr

/-- The chomping that a character asks for. -/
def Chomping.ofChar? (c : Char) : Option Chomping :=
  if c = '+' then some .keep else if c = '-' then some .strip else none

/-- The header of a block: its chomping, and its indentation if it is given. -/
structure BlockHeader where
  chomping : Chomping
  increment : Option Nat
deriving Repr

/-- Reads an indentation of one digit; zero is refused. -/
def increment? (cursor : Cursor) : Option (Option Nat × Cursor) :=
  match cursor.rest with
  | c :: _ =>
    if c = '0' then none
    else if c.isDigit then some (some (c.toNat - '0'.toNat), cursor.skip)
    else some (none, cursor)
  | [] => some (none, cursor)

/-- Reads the chomping of a block, if it is given here. -/
def chomping? (cursor : Cursor) : Option Chomping × Cursor :=
  match cursor.rest.head?.bind Chomping.ofChar? with
  | some chomping => (some chomping, cursor.skip)
  | none => (none, cursor)

/-- Reads the header of a block and the rest of its line. -/
def blockHeader? (cursor : Cursor) : Option (BlockHeader × Cursor) := do
  let (first, cursor) := chomping? cursor
  let (increment, cursor) ← increment? cursor
  let (chomping, cursor) :=
    match first, increment with
    | none, some _ => chomping? cursor
    | _, _ => (first, cursor)
  let cursor := cursor.skipWhile isBlank
  let cursor := if cursor.sees '#' then cursor.skipLineText else cursor
  if !endsLine cursor.rest then none
  let cursor := match cursor.lineBreak? with
    | some (_, next) => next
    | none => cursor
  return ({ chomping := chomping.getD .clip, increment }, cursor)

/-- Reads the empty lines of a block and the indentation of the line after them. Without a known
indentation all leading blanks are taken. Gives the line ends and the widest indentation. -/
def blockBreaks (indent : Option Nat) :
    Nat → Cursor → List Char → Nat → Option (List Char × Nat × Cursor)
  | 0, _, _, _ => none
  | fuel + 1, cursor, breaks, widest =>
    let spaces := (cursor.rest.takeWhile (· = ' ')).length
    let cursor := cursor.advance <|
      match indent with
      | some indent => min spaces (indent - cursor.column)
      | none => spaces
    let widest := max widest cursor.column
    let isIndented := match indent with
      | some indent => indent ≤ cursor.column
      | none => false
    if !isIndented && cursor.sees '\t' then none
    else
      match cursor.lineBreak? with
      | some (c, next) => blockBreaks indent fuel next (breaks ++ [c]) widest
      | none => some (breaks, widest, cursor)

/-- Reads the lines of a block. `ending` is the end of the line before, and `breaks` are the
empty lines after it. -/
def blockLines (literal : Bool) (chomping : Chomping) (indent : Nat) :
    Nat → Cursor → List Char → Bool → Option Char → List Char → Option (List Char × Cursor)
  | 0, _, _, _, _, _ => none
  | fuel + 1, cursor, text, afterBlank, ending, breaks =>
    if cursor.column = indent && !cursor.rest.isEmpty then do
      let startsBlank := (cursor.rest.head?.map isBlank).getD false
      let joint :=
        if !literal && ending = some '\n' && !afterBlank && !startsBlank then
          if breaks.isEmpty then [' '] else []
        else ending.toList
      let after := cursor.skipLineText
      let line := cursor.rest.take (after.index - cursor.index)
      let (ending, next) := match after.lineBreak? with
        | some (c, next) => (some c, next)
        | none => (none, after)
      let text := text ++ joint ++ breaks ++ line
      let (breaks, _, next) ← blockBreaks (some indent) next.steps next [] 0
      blockLines literal chomping indent fuel next text startsBlank ending breaks
    else
      let tail := match chomping with
        | .strip => []
        | .clip => ending.toList
        | .keep => ending.toList ++ breaks
      some (text ++ tail, cursor)

/-- Reads a block scalar from after its indicator, inside a block that is indented by
`parent`. -/
def block (literal : Bool) (parent : Int) (cursor : Cursor) : Option (List Char × Cursor) := do
  let (header, cursor) ← blockHeader? cursor
  let given := header.increment.map fun increment => (max parent 0).toNat + increment
  let (breaks, widest, cursor) ← blockBreaks given cursor.steps cursor [] 0
  let indent := given.getD (max (max widest (parent + 1).toNat) 1)
  blockLines literal header.chomping indent cursor.steps cursor [] false none breaks

end DeadSymbols.Yaml
