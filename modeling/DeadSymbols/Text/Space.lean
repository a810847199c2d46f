/-!
Contract: which characters are white space, and how text is trimmed of them.

Owns: `isSpace` (the Unicode property White_Space), trimming at either end, blankness.
Does not own: line structure (`Text.Line`) or tokens (`Text.Scan`).
-/

namespace DeadSymbols.Text

/-- The characters with the Unicode property White_Space. -/
def isSpace (c : Char) : Bool :=
  let code := c.toNat
  (0x09 ≤ code && code ≤ 0x0D) || code == 0x20 || code == 0x85 || code == 0xA0 ||
    code == 0x1680 || (0x2000 ≤ code && code ≤ 0x200A) || code == 0x2028 || code == 0x2029 ||
    code == 0x202F || code == 0x205F || code == 0x3000

/-- The text without its leading white space. -/
def trimStart (cs : List Char) : List Char :=
  cs.dropWhile isSpace

/-- The text without its trailing characters of the class `p`. -/
def dropTrailing (p : Char → Bool) : List Char → List Char
  | [] => []
  | c :: rest =>
    match dropTrailing p rest with
    | [] => if p c then [] else [c]
    | kept => c :: kept

/-- The text without its trailing white space. -/
def trimEnd (cs : List Char) : List Char :=
  dropTrailing isSpace cs

/-- The text without white space at either end. -/
def trim (cs : List Char) : List Char :=
  trimEnd (trimStart cs)

/-- Text that holds white space only, if anything. -/
def isBlank (cs : List Char) : Bool :=
  cs.all isSpace

/-- The trimmed form of a string. -/
def trimString (s : String) : String :=
  String.ofList (trim s.toList)

end DeadSymbols.Text
