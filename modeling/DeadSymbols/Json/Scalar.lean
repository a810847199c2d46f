import DeadSymbols.Json.Problem
import DeadSymbols.Text.Scan

/-!
Contract: the scalars of a JSON text: words, strings and numbers.

Every reader takes the text that is left and gives the value with the text after it. Strings
are read after their opening quote, and numbers after their sign. A reader ends with a problem
at the first character that cannot continue its scalar.

A value that nobody asked for is only skipped: then numbers may have any size and escapes may
stand for any surrogate, but the shape of the text is still checked.
-/

namespace DeadSymbols.Json

/-- White space between the tokens of a JSON text. -/
def isGap (c : Char) : Bool := c = ' ' || c = '\n' || c = '\t' || c = '\r'

/-- The text without the white space at its start. -/
def skipGap (text : List Char) : List Char := text.dropWhile isGap

/-- Reads the letters of a word. -/
def readWord : List Char → List Char → Except Problem (List Char)
  | [], text => .ok text
  | _ :: _, [] => .error .endInValue
  | c :: word, d :: text => if c = d then readWord word text else .error .expectedIdent

/-! ### Strings -/

/-- The character that a letter after a backslash stands for. -/
def escapeLetter? (c : Char) : Option Char :=
  match c with
  | '"' => some '"'
  | '\\' => some '\\'
  | '/' => some '/'
  | 'b' => some '\x08'
  | 'f' => some '\x0c'
  | 'n' => some '\n'
  | 'r' => some '\r'
  | 't' => some '\t'
  | _ => none

/-- The value of a hexadecimal digit. -/
def hexDigit? (c : Char) : Option Nat :=
  if '0' ≤ c && c ≤ '9' then some (c.toNat - '0'.toNat)
  else if 'a' ≤ c && c ≤ 'f' then some (c.toNat - 'a'.toNat + 10)
  else if 'A' ≤ c && c ≤ 'F' then some (c.toNat - 'A'.toNat + 10)
  else none

/-- The number that four hexadecimal digits stand for. -/
def hexNumber? (a b c d : Char) : Option Nat := do
  return (((← hexDigit? a) * 16 + (← hexDigit? b)) * 16 + (← hexDigit? c)) * 16 + (← hexDigit? d)

/-- The problem with a hexadecimal escape that has fewer than four characters left: it is cut off
when fewer than four bytes are left, and wrong otherwise. -/
def shortEscape (left : List Char) : Problem :=
  if (String.ofList left).utf8ByteSize < 4 then .endInString else .invalidEscape

/-- Whether a number is the first half of a surrogate pair. -/
def isHighSurrogate (n : Nat) : Bool := 0xD800 ≤ n && n ≤ 0xDBFF

/-- Whether a number is the second half of a surrogate pair. -/
def isLowSurrogate (n : Nat) : Bool := 0xDC00 ≤ n && n ≤ 0xDFFF

/-- The character that a surrogate pair stands for. -/
def pairedChar (high low : Nat) : Char :=
  Char.ofNat (0x10000 + (high - 0xD800) * 0x400 + (low - 0xDC00))

/-- Puts a character before a string that has been read. -/
def withChar (c : Char) (read : Except Problem (List Char × List Char)) :
    Except Problem (List Char × List Char) :=
  read.map fun (text, rest) => (c :: text, rest)

/-- Reads a string after its opening quote. -/
def readString : List Char → Except Problem (List Char × List Char)
  | [] => .error .endInString
  | '"' :: rest => .ok ([], rest)
  | '\\' :: 'u' :: a :: b :: c :: d :: rest =>
    match hexNumber? a b c d with
    | none => .error .invalidEscape
    | some n =>
      if isLowSurrogate n then .error .loneSurrogate
      else if isHighSurrogate n then
        match rest with
        | [] => .error .endInString
        | ['\\'] => .error .endInString
        | '\\' :: 'u' :: e :: f :: g :: h :: after =>
          match hexNumber? e f g h with
          | none => .error .invalidEscape
          | some low =>
            if isLowSurrogate low then withChar (pairedChar n low) (readString after)
            else .error .loneSurrogate
        | '\\' :: 'u' :: short => .error (shortEscape short)
        | _ => .error .cutSurrogate
      else withChar (Char.ofNat n) (readString rest)
  | '\\' :: 'u' :: short => .error (shortEscape short)
  | ['\\'] => .error .endInString
  | '\\' :: letter :: rest =>
    match escapeLetter? letter with
    | some c => withChar c (readString rest)
    | none => .error .invalidEscape
  | c :: rest => if c.toNat < 0x20 then .error .controlCharacter else withChar c (readString rest)

/-- Skips a string after its opening quote. -/
def skipString : List Char → Except Problem (List Char)
  | [] => .error .endInString
  | '"' :: rest => .ok rest
  | '\\' :: 'u' :: a :: b :: c :: d :: rest =>
    if (hexNumber? a b c d).isSome then skipString rest else .error .invalidEscape
  | '\\' :: 'u' :: short => .error (shortEscape short)
  | ['\\'] => .error .endInString
  | '\\' :: letter :: rest =>
    if (escapeLetter? letter).isSome then skipString rest else .error .invalidEscape
  | c :: rest => if c.toNat < 0x20 then .error .controlCharacter else skipString rest

/-! ### Numbers -/

/-- The value of a decimal digit. -/
def digitValue (c : Char) : Nat := c.toNat - '0'.toNat

/-- The largest significand that is kept. -/
def maxSignificand : Nat := Nat.pow 2 64 - 1

/-- The significand with one more digit, unless it would grow too large. -/
def absorb? (significand : Nat) (digit : Char) : Option Nat :=
  let next := significand * 10 + digitValue digit
  if next ≤ maxSignificand then some next else none

/-- Reads the digits of a whole number: the significand, and how many digits it had no room
for. -/
def wholeDigits (significand : Nat) : List Char → Nat × Nat
  | [] => (significand, 0)
  | digit :: rest =>
    match absorb? significand digit with
    | some next => wholeDigits next rest
    | none => (significand, rest.length + 1)

/-- Reads the digits of a fraction: the significand and its exponent. Digits that the significand
has no room for are dropped. -/
def fractionDigits (significand : Nat) (exponent : Int) : List Char → Nat × Int
  | [] => (significand, exponent)
  | digit :: rest =>
    match absorb? significand digit with
    | some next => fractionDigits next (exponent - 1) rest
    | none => (significand, exponent)

/-- The problem at a place where a digit is missing. -/
def missingDigit (rest : List Char) : Problem :=
  if rest.isEmpty then .endInValue else .invalidNumber

/-- Reads an exponent after its letter. -/
def readExponent (text : List Char) : Except Problem (Int × List Char) :=
  let (negative, digits) :=
    match text with
    | '+' :: rest => (false, rest)
    | '-' :: rest => (true, rest)
    | _ => (false, text)
  match Text.run? Char.isDigit digits with
  | none => .error (missingDigit digits)
  | some (run, rest) =>
    let value : Int := (run.foldl (fun n digit => n * 10 + digitValue digit) 0 : Nat)
    .ok (if negative then -value else value, rest)

/-- The floating-point value of a significand and an exponent. -/
def real (negative : Bool) (significand : Nat) (exponent : Int) : Except Problem Found :=
  match Binary64.ofDecimal? significand exponent with
  | some magnitude => .ok (.real negative magnitude)
  | none => .error .numberOutOfRange

/-- Whether a letter starts an exponent. -/
def isExponentMark (c : Char) : Bool := c = 'e' || c = 'E'

/-- Reads an optional exponent and gives the floating-point value. -/
def readScaled (negative : Bool) (significand : Nat) (exponent : Int) (text : List Char) :
    Except Problem (Found × List Char) :=
  match text with
  | mark :: rest =>
    if isExponentMark mark then do
      let (scale, rest) ← readExponent rest
      return (← real negative significand (exponent + scale), rest)
    else do return (← real negative significand exponent, text)
  | [] => do return (← real negative significand exponent, [])

/-- The value of a number without fraction and exponent. Zero has a sign of its own only as a
floating-point number, and so have negative numbers below those of 64 bits. -/
def wholeNumber (negative : Bool) (significand : Nat) : Except Problem Found :=
  if !negative then .ok (.integer significand)
  else if 0 < significand && significand ≤ Nat.pow 2 63 then .ok (.integer (-(significand : Int)))
  else real true significand 0

/-- Reads a number after its sign. -/
def readNumber (negative : Bool) (text : List Char) : Except Problem (Found × List Char) :=
  match Text.run? Char.isDigit text with
  | none => .error (missingDigit text)
  | some (digits, rest) =>
    if 1 < digits.length && digits.head? = some '0' then .error .invalidNumber
    else
      let (significand, dropped) := wholeDigits 0 digits
      match rest with
      | '.' :: afterPoint =>
        match Text.run? Char.isDigit afterPoint with
        | none => .error (missingDigit afterPoint)
        | some (fraction, rest) =>
          let (significand, exponent) := fractionDigits significand dropped fraction
          readScaled negative significand exponent rest
      | mark :: _ =>
        if isExponentMark mark || 0 < dropped then readScaled negative significand dropped rest
        else do return (← wholeNumber negative significand, rest)
      | [] =>
        if 0 < dropped then readScaled negative significand dropped rest
        else do return (← wholeNumber negative significand, rest)

/-- Skips an exponent after its letter. -/
def skipExponent (text : List Char) : Except Problem (List Char) :=
  let digits :=
    match text with
    | '+' :: rest => rest
    | '-' :: rest => rest
    | _ => text
  match Text.run? Char.isDigit digits with
  | none => .error .invalidNumber
  | some (_, rest) => .ok rest

/-- Skips an optional exponent. -/
def skipScale (text : List Char) : Except Problem (List Char) :=
  match text with
  | mark :: rest => if isExponentMark mark then skipExponent rest else .ok text
  | [] => .ok []

/-- Skips a number after its sign. -/
def skipNumber (text : List Char) : Except Problem (List Char) :=
  match Text.run? Char.isDigit text with
  | none => .error .invalidNumber
  | some (digits, rest) =>
    if 1 < digits.length && digits.head? = some '0' then .error .invalidNumber
    else
      match rest with
      | '.' :: afterPoint =>
        match Text.run? Char.isDigit afterPoint with
        | none => .error .invalidNumber
        | some (_, rest) => skipScale rest
      | _ => skipScale rest

end DeadSymbols.Json
