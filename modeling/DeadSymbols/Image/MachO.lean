/-!
Contract: which octets are a Mach-O image.

A universal image is known by its mark alone. A thin image has a header in the byte order that
its mark tells, and load commands that lie inside the file, one after another. A segment command
also names a range of the file.

Owns: the check of an image's frame.
Does not own: what the load commands say beyond that.
-/

namespace DeadSymbols.MachO

/-- The order of the octets in a number. -/
inductive ByteOrder where
  | big
  | little
deriving DecidableEq, Repr

/-- The kind of an image. -/
inductive Kind where
  | thin
  | universal
deriving DecidableEq, Repr

/-- The octets from an offset on; `none` when fewer are left. -/
def octetsAt? (bytes : ByteArray) (offset width : Nat) : Option (List UInt8) :=
  if offset + width ≤ bytes.size then some (bytes.extract offset (offset + width)).toList
  else none

/-- The number that octets spell. -/
def ByteOrder.number (order : ByteOrder) (octets : List UInt8) : Nat :=
  let ordered := match order with
    | .big => octets
    | .little => octets.reverse
  ordered.foldl (fun value octet => value * 256 + octet.toNat) 0

/-- The number of a width at an offset. -/
def numberAt? (order : ByteOrder) (bytes : ByteArray) (offset width : Nat) : Option Nat :=
  (octetsAt? bytes offset width).map order.number

/-- The frame of a thin image: its byte order and the length of its header. -/
structure Frame where
  order : ByteOrder
  headerLength : Nat
deriving DecidableEq, Repr

/-- The mark of a universal image. -/
def universalMark : List UInt8 := [0xCA, 0xFE, 0xBA, 0xBE]

/-- The frames by the marks of thin images. -/
def frames : List (List UInt8 × Frame) :=
  [([0xFE, 0xED, 0xFA, 0xCE], ⟨.big, 28⟩), ([0xFE, 0xED, 0xFA, 0xCF], ⟨.big, 32⟩),
   ([0xCE, 0xFA, 0xED, 0xFE], ⟨.little, 28⟩), ([0xCF, 0xFA, 0xED, 0xFE], ⟨.little, 32⟩)]

/-- Whether a range of the file that a segment names lies inside the file. An empty range lies
anywhere. -/
def rangeFits (bytes : ByteArray) (offset length : Nat) : Bool :=
  length = 0 || (offset < bytes.size && offset + length ≤ bytes.size)

/-- Whether the fixed part of a load command can be read, and the range that it names fits. -/
def commandFits (order : ByteOrder) (bytes : ByteArray) (offset kind : Nat) : Bool :=
  let segment (size width place : Nat) : Bool :=
    match octetsAt? bytes offset size, numberAt? order bytes (offset + place) width,
        numberAt? order bytes (offset + place + width) width with
    | some _, some fileOffset, some fileSize => rangeFits bytes fileOffset fileSize
    | _, _, _ => false
  match kind with
  | 0x01 => segment 56 4 32
  | 0x19 => segment 72 8 40
  | 0x1b => (octetsAt? bytes offset 24).isSome
  | _ => true

/-- Whether a number of load commands from an offset on lie inside the file. -/
def commandsFit (order : ByteOrder) (bytes : ByteArray) : Nat → Nat → Bool
  | 0, _ => true
  | count + 1, offset =>
    match numberAt? order bytes offset 4, numberAt? order bytes (offset + 4) 4 with
    | some kind, some size =>
      offset + size ≤ bytes.size && commandFits order bytes offset kind &&
        commandsFit order bytes count (offset + size)
    | _, _ => false

/-- Whether octets with the mark of a frame are a thin image. -/
def Frame.fits (frame : Frame) (bytes : ByteArray) : Bool :=
  match numberAt? frame.order bytes 16 4, numberAt? frame.order bytes 20 4 with
  | some count, some size =>
    32 ≤ bytes.size && count ≤ size / 8 && size ≤ bytes.size &&
      commandsFit frame.order bytes count frame.headerLength
  | _, _ => false

/-- The kind of image that octets are; `none` when they are no image. -/
def kind? (bytes : ByteArray) : Option Kind :=
  if bytes.size < 16 then none
  else
    let mark := (bytes.extract 0 4).toList
    if mark = universalMark then some .universal
    else
      match frames.lookup mark with
      | some frame => if frame.fits bytes then some .thin else none
      | none => none

end DeadSymbols.MachO
