/-!
Contract: the SHA-256 digest of octets.

The message is padded to whole blocks of sixteen words, and each block is folded into a state of
eight words by sixty-four rounds.
-/

namespace DeadSymbols.Digest

/-- Turns a word to the right. -/
def rotate (word : UInt32) (amount : UInt32) : UInt32 :=
  (word >>> amount) ||| (word <<< (32 - amount))

/-- One constant for each round. -/
def roundConstants : List UInt32 :=
  [0x428a2f98, 0x71374491, 0xb5c0fbcf, 0xe9b5dba5, 0x3956c25b, 0x59f111f1, 0x923f82a4, 0xab1c5ed5,
   0xd807aa98, 0x12835b01, 0x243185be, 0x550c7dc3, 0x72be5d74, 0x80deb1fe, 0x9bdc06a7, 0xc19bf174,
   0xe49b69c1, 0xefbe4786, 0x0fc19dc6, 0x240ca1cc, 0x2de92c6f, 0x4a7484aa, 0x5cb0a9dc, 0x76f988da,
   0x983e5152, 0xa831c66d, 0xb00327c8, 0xbf597fc7, 0xc6e00bf3, 0xd5a79147, 0x06ca6351, 0x14292967,
   0x27b70a85, 0x2e1b2138, 0x4d2c6dfc, 0x53380d13, 0x650a7354, 0x766a0abb, 0x81c2c92e, 0x92722c85,
   0xa2bfe8a1, 0xa81a664b, 0xc24b8b70, 0xc76c51a3, 0xd192e819, 0xd6990624, 0xf40e3585, 0x106aa070,
   0x19a4c116, 0x1e376c08, 0x2748774c, 0x34b0bcb5, 0x391c0cb3, 0x4ed8aa4a, 0x5b9cca4f, 0x682e6ff3,
   0x748f82ee, 0x78a5636f, 0x84c87814, 0x8cc70208, 0x90befffa, 0xa4506ceb, 0xbef9a3f7, 0xc67178f2]

/-- The eight words of the state. -/
structure State where
  a : UInt32
  b : UInt32
  c : UInt32
  d : UInt32
  e : UInt32
  f : UInt32
  g : UInt32
  h : UInt32
deriving DecidableEq, Repr

/-- The state before the first block. -/
def State.initial : State :=
  { a := 0x6a09e667, b := 0xbb67ae85, c := 0x3c6ef372, d := 0xa54ff53a
    e := 0x510e527f, f := 0x9b05688c, g := 0x1f83d9ab, h := 0x5be0cd19 }

/-- The words of a state. -/
def State.words (state : State) : List UInt32 :=
  [state.a, state.b, state.c, state.d, state.e, state.f, state.g, state.h]

/-- Adds two states word by word. -/
def State.add (left right : State) : State :=
  { a := left.a + right.a, b := left.b + right.b, c := left.c + right.c, d := left.d + right.d
    e := left.e + right.e, f := left.f + right.f, g := left.g + right.g, h := left.h + right.h }

/-- One round, with the sum of its constant and its schedule word. -/
def State.round (state : State) (input : UInt32) : State :=
  let e := state.e
  let a := state.a
  let turnedE := rotate e 6 ^^^ rotate e 11 ^^^ rotate e 25
  let choice := (e &&& state.f) ^^^ (~~~e &&& state.g)
  let first := state.h + turnedE + choice + input
  let turnedA := rotate a 2 ^^^ rotate a 13 ^^^ rotate a 22
  let majority := (a &&& state.b) ^^^ (a &&& state.c) ^^^ (state.b &&& state.c)
  { a := first + turnedA + majority, b := a, c := state.b, d := state.c
    e := state.d + first, f := e, g := state.f, h := state.g }

/-- The schedule word that follows a list of earlier ones, the latest first. -/
def nextWord (earlier : List UInt32) : UInt32 :=
  let back (distance : Nat) : UInt32 := earlier.getD (distance - 1) 0
  let low := back 15
  let high := back 2
  back 16 + (rotate low 7 ^^^ rotate low 18 ^^^ (low >>> 3)) + back 7 +
    (rotate high 17 ^^^ rotate high 19 ^^^ (high >>> 10))

/-- The schedule of a block: its words and as many more as there are rounds left. -/
def schedule (block : List UInt32) : List UInt32 :=
  ((List.range 48).foldl (fun earlier _ => nextWord earlier :: earlier) block.reverse).reverse

/-- Folds a block into a state. -/
def State.compress (state : State) (block : List UInt32) : State :=
  state.add (((schedule block).zip roundConstants).foldl
    (fun state (word, constant) => state.round (constant + word)) state)

/-- Folds a number of blocks into a state. -/
def State.compressAll : Nat → State → List UInt32 → State
  | 0, state, _ => state
  | count + 1, state, words => (state.compress (words.take 16)).compressAll count (words.drop 16)

/-- The octets of a number, the highest first. -/
def bigEndian (width : Nat) (n : Nat) : List UInt8 :=
  (List.range width).reverse.map fun place => UInt8.ofNat (n / Nat.pow 256 place % 256)

/-- The words of octets. -/
def wordsOf : List UInt8 → List UInt32
  | first :: second :: third :: fourth :: rest =>
    ((first.toUInt32 <<< 24) ||| (second.toUInt32 <<< 16) ||| (third.toUInt32 <<< 8) |||
      fourth.toUInt32) :: wordsOf rest
  | _ => []

/-- The message with a mark, zeros up to eight octets short of a block, and its length in bits. -/
def padded (message : List UInt8) : List UInt8 :=
  let zeros := (119 - message.length % 64) % 64
  message ++ 0x80 :: List.replicate zeros 0 ++ bigEndian 8 (message.length * 8)

/-- The digest of a message. -/
def digest (message : List UInt8) : List UInt8 :=
  let words := wordsOf (padded message)
  ((State.initial.compressAll (words.length / 16) words).words).flatMap fun word =>
    bigEndian 4 word.toNat

/-- The two hexadecimal digits of an octet, in small letters. -/
def hexOctet (octet : UInt8) : List Char :=
  [Nat.digitChar (octet.toNat / 16), Nat.digitChar (octet.toNat % 16)]

/-- The digest of a message in hexadecimal digits. -/
def hexDigest (message : List UInt8) : String :=
  String.ofList ((digest message).flatMap hexOctet)

end DeadSymbols.Digest
