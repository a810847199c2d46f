import DeadSymbols.Number.Binary64

/-!
Contract: the shortest decimal text of a floating-point number.

The digits are the fewest that read back as the number, and of those the nearest to it. A
number is written positionally when its leading digit stands for a power of ten from `10 ^ -5`
to `10 ^ 15`, with a fractional part even when that is zero. Other numbers are written with an
exponent, which has a sign and at least two digits.
-/

namespace DeadSymbols.Binary64

/-- The decimal digits of a natural number. -/
def decimalDigits (n : Nat) : List Char := Nat.toDigits 10 n

/-- The exponent of the leading decimal digit of a positive quotient. -/
def leadingExponent (numerator denominator : Nat) : Int :=
  if denominator ≤ numerator then (decimalDigits (numerator / denominator)).length - 1
  else
    let places := (decimalDigits (denominator / numerator)).length
    if denominator ≤ numerator * Nat.pow 10 (places - 1) then -((places - 1 : Nat) : Int)
    else -(places : Int)

/-- The decimals that read back as a number: those from `lower` to `upper` in quarters of the unit
of its mantissa, with the ends for an even mantissa. -/
structure ReadBack where
  lower : Nat
  upper : Nat
  closed : Bool

/-- The decimals that read back as the given number. -/
def readBack (x : Binary64) : ReadBack :=
  { lower := if x.mantissa = Nat.pow 2 52 && minExponent < x.exponent then 4 * x.mantissa - 1
      else 4 * x.mantissa - 2
    upper := 4 * x.mantissa + 2
    closed := x.mantissa % 2 = 0 }

/-- Whether `digits * 10 ^ place` reads back as the number. -/
def readsBack (x : Binary64) (digits : Nat) (place : Int) : Bool :=
  let range := x.readBack
  let (unitUp, unitDown) := powerRatio 2 (x.exponent - 2)
  let (tenUp, tenDown) := powerRatio 10 place
  let point := digits * tenUp * unitDown
  let lower := range.lower * unitUp * tenDown
  let upper := range.upper * unitUp * tenDown
  if range.closed then lower ≤ point && point ≤ upper else lower < point && point < upper

/-- The nearest decimal with the given number of digits that reads back as the number. -/
def withDigits? (x : Binary64) (leading : Int) (count : Nat) : Option (Nat × Int) :=
  let place := leading - (count - 1 : Nat)
  let (tenUp, tenDown) := powerRatio 10 place
  let numerator := x.ratio.1 * tenDown
  let denominator := x.ratio.2 * tenUp
  let below := numerator / denominator
  let nearest := roundDiv numerator denominator
  let other := if nearest = below then below + 1 else below
  if x.readsBack nearest place then some (nearest, place)
  else if x.readsBack other place then some (other, place)
  else none

/-- The shortest decimal that reads back as a positive number: its digits, and the place of the
last one. Seventeen digits always suffice. -/
def shortest (x : Binary64) : Nat × Int :=
  let leading := leadingExponent x.ratio.1 x.ratio.2
  ((List.range 17).findSome? fun n => x.withDigits? leading (n + 1)).getD
    (roundDiv x.ratio.1 x.ratio.2, 0)

/-- The digits without their trailing zeros, and how many were dropped. -/
def withoutTrailingZeros (digits : List Char) : List Char × Nat :=
  let kept := (digits.reverse.dropWhile (· = '0')).reverse
  (kept, digits.length - kept.length)

/-- The exponents of the leading digit that are written positionally. -/
def isPositional (leading : Int) : Bool := -5 ≤ leading && leading ≤ 15

/-- The text of digits whose first stands for `10 ^ leading`. -/
def layoutDigits (digits : List Char) (leading : Int) : List Char :=
  if isPositional leading then
    if leading < 0 then
      "0.".toList ++ List.replicate ((-leading).toNat - 1) '0' ++ digits
    else
      let whole := leading.toNat + 1
      let padded := digits ++ List.replicate (whole - digits.length) '0'
      let fraction := padded.drop whole
      padded.take whole ++ ['.'] ++ (if fraction.isEmpty then ['0'] else fraction)
  else
    let fraction := digits.drop 1
    let magnitude := decimalDigits leading.natAbs
    digits.take 1 ++ (if fraction.isEmpty then [] else '.' :: fraction) ++ ['e'] ++
      (if leading < 0 then ['-'] else ['+']) ++
      List.replicate (2 - magnitude.length) '0' ++ magnitude

/-- The shortest text of a number. -/
def text (x : Binary64) : List Char :=
  if x.isZero then "0.0".toList
  else
    let (digits, place) := x.shortest
    let (kept, dropped) := withoutTrailingZeros (decimalDigits digits)
    layoutDigits kept (place + dropped + (kept.length - 1 : Nat))

end DeadSymbols.Binary64
