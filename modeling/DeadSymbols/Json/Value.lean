/-!
Contract: JSON values and their two written forms.

`compact` writes no white space. `pretty` puts every element and member on a line of its own,
two blanks deeper than what holds it, and a blank after the colon; an empty list or object
stays on one line. In strings only the double quote, the backslash and the control characters
are escaped.
-/

namespace DeadSymbols.Json

/-- A JSON value. Members keep their order. -/
inductive Value where
  | null
  | boolean (value : Bool)
  | number (value : Int)
  | string (value : String)
  | array (elements : List Value)
  | object (members : List (String × Value))
deriving Repr

/-- A hexadecimal digit in lower case. -/
def hexDigit (n : Nat) : Char := Nat.digitChar n

/-- A character as it stands inside a written string. -/
def escapeChar (c : Char) : List Char :=
  if c = '"' then ['\\', '"']
  else if c = '\\' then ['\\', '\\']
  else if c = '\x08' then ['\\', 'b']
  else if c = '\x0c' then ['\\', 'f']
  else if c = '\n' then ['\\', 'n']
  else if c = '\r' then ['\\', 'r']
  else if c = '\t' then ['\\', 't']
  else if c.toNat < 0x20 then
    ['\\', 'u', '0', '0', hexDigit (c.toNat / 16), hexDigit (c.toNat % 16)]
  else [c]

/-- A string between its quotes. -/
def writeString (s : String) : List Char :=
  '"' :: s.toList.flatMap escapeChar ++ ['"']

/-- An integer in decimal digits. -/
def writeNumber (n : Int) : List Char :=
  match n with
  | .ofNat n => Nat.toDigits 10 n
  | .negSucc n => '-' :: Nat.toDigits 10 (n + 1)

mutual

/-- The form without white space. -/
def Value.compact : Value → List Char
  | .null => "null".toList
  | .boolean true => "true".toList
  | .boolean false => "false".toList
  | .number n => writeNumber n
  | .string s => writeString s
  | .array [] => "[]".toList
  | .array (head :: tail) => '[' :: head.compact ++ compactElements tail
  | .object [] => "\x7b\x7d".toList
  | .object ((key, value) :: tail) =>
    '\x7b' :: writeString key ++ ':' :: value.compact ++ compactMembers tail

/-- The further elements of a list, and its closing bracket. -/
def compactElements : List Value → List Char
  | [] => [']']
  | head :: tail => ',' :: head.compact ++ compactElements tail

/-- The further members of an object, and its closing brace. -/
def compactMembers : List (String × Value) → List Char
  | [] => ['\x7d']
  | (key, value) :: tail => ',' :: writeString key ++ ':' :: value.compact ++ compactMembers tail

end

/-- The start of a line at a depth. -/
def newLine (depth : Nat) : List Char := '\n' :: List.replicate (2 * depth) ' '

mutual

/-- The form with one element or member per line, for a value at a depth. -/
def Value.prettyAt (depth : Nat) : Value → List Char
  | .array (head :: tail) =>
    '[' :: newLine (depth + 1) ++ head.prettyAt (depth + 1) ++ prettyElements depth tail
  | .object ((key, value) :: tail) =>
    '\x7b' :: newLine (depth + 1) ++ writeString key ++ ": ".toList ++
      value.prettyAt (depth + 1) ++ prettyMembers depth tail
  | scalar => scalar.compact

/-- The further elements of a list at a depth, and its closing bracket. -/
def prettyElements (depth : Nat) : List Value → List Char
  | [] => newLine depth ++ [']']
  | head :: tail =>
    ',' :: newLine (depth + 1) ++ head.prettyAt (depth + 1) ++ prettyElements depth tail

/-- The further members of an object at a depth, and its closing brace. -/
def prettyMembers (depth : Nat) : List (String × Value) → List Char
  | [] => newLine depth ++ ['\x7d']
  | (key, value) :: tail =>
    ',' :: newLine (depth + 1) ++ writeString key ++ ": ".toList ++
      value.prettyAt (depth + 1) ++ prettyMembers depth tail

end

/-- The form with one element or member per line. -/
def Value.pretty (value : Value) : List Char := value.prettyAt 0

/-- A list of strings. -/
def strings (values : List String) : Value := .array (values.map .string)

/-- A member that is left out when it has no value. -/
def member? (key : String) (value : Option Value) : List (String × Value) :=
  (value.map fun value => (key, value)).toList

end DeadSymbols.Json
