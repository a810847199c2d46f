/-!
Contract: text from octets that need not be UTF-8.

Octets are read one character at a time. What cannot be completed to a character is replaced:
the longest run of octets that starts a character, but does not finish it, becomes one U+FFFD,
and so does each octet that starts none.
-/

namespace DeadSymbols.Text

/-- The character that stands for octets that are no text. -/
def replacement : Char := '\ufffd'

/-- A range of octets, ends included. -/
structure OctetRange where
  low : Nat
  high : Nat
deriving DecidableEq, Repr

/-- Whether an octet lies in a range. -/
def OctetRange.contains (range : OctetRange) (octet : UInt8) : Bool :=
  range.low ≤ octet.toNat && octet.toNat ≤ range.high

/-- The octets that continue a character. -/
def continuation : OctetRange := ⟨0x80, 0xBF⟩

/-- What the first octet of a character says: its bits of the character, and the octets that may
follow. The range of the second octet keeps out overlong forms, surrogates and code points
beyond the last one. -/
def leadOctet? (octet : UInt8) : Option (Nat × List OctetRange) :=
  let n := octet.toNat
  if n < 0x80 then some (n, [])
  else if n < 0xC2 then none
  else if n < 0xE0 then some (n - 0xC0, [continuation])
  else if n = 0xE0 then some (0, [⟨0xA0, 0xBF⟩, continuation])
  else if n = 0xED then some (0xD, [⟨0x80, 0x9F⟩, continuation])
  else if n < 0xF0 then some (n - 0xE0, [continuation, continuation])
  else if n = 0xF0 then some (0, [⟨0x90, 0xBF⟩, continuation, continuation])
  else if n < 0xF4 then some (n - 0xF0, [continuation, continuation, continuation])
  else if n = 0xF4 then some (4, [⟨0x80, 0x8F⟩, continuation, continuation])
  else none

/-- Reads the octets that complete a character. Without all of them there is no character, and
the octets that fit are used up. -/
def completed (bits : Nat) : List OctetRange → List UInt8 → Option Nat × List UInt8
  | [], octets => (some bits, octets)
  | _ :: _, [] => (none, [])
  | range :: ranges, octet :: octets =>
    if range.contains octet then completed (bits * 64 + octet.toNat % 64) ranges octets
    else (none, octet :: octets)

/-- No octets are added while a character is completed. -/
theorem completed_length (bits : Nat) (ranges : List OctetRange) (octets : List UInt8) :
    (completed bits ranges octets).2.length ≤ octets.length := by
  induction ranges generalizing bits octets with
  | nil => exact Nat.le_refl _
  | cons range ranges inductionHypothesis =>
    cases octets with
    | nil => exact Nat.le_refl _
    | cons octet octets =>
      unfold completed
      split
      · exact Nat.le_succ_of_le (inductionHypothesis _ octets)
      · exact Nat.le_refl _

/-- The text of octets, with what is no text replaced. -/
def decodeLossy : List UInt8 → List Char
  | [] => []
  | octet :: octets =>
    match leadOctet? octet with
    | none => replacement :: decodeLossy octets
    | some (bits, ranges) =>
      let result := completed bits ranges octets
      have := completed_length bits ranges octets
      ((result.1.map Char.ofNat).getD replacement) :: decodeLossy result.2
termination_by octets => octets.length

/-- The text of a byte array, with what is no text replaced. -/
def ofBytesLossy (bytes : ByteArray) : String := String.ofList (decodeLossy bytes.toList)

end DeadSymbols.Text
