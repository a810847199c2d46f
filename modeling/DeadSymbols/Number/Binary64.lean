/-!
Contract: non-negative binary floating-point numbers of 64 bits, without infinities.

A number is a mantissa below `2 ^ 53` times a power of two from `2 ^ -1074` to `2 ^ 971`.
`ofRatio?` rounds a quotient of natural numbers to the nearest such number, a tie going to the
even mantissa; it fails when the result would exceed the largest one. Products, quotients and
decimal powers are rounded exact values, so every rule here is one about natural numbers.
-/

namespace DeadSymbols

/-- The number `mantissa * 2 ^ exponent`. -/
structure Binary64 where
  mantissa : Nat
  exponent : Int
deriving DecidableEq, Repr

namespace Binary64

/-- The least exponent of a mantissa. -/
def minExponent : Int := -1074

/-- The greatest exponent of a mantissa. -/
def maxExponent : Int := 971

/-- The number zero. -/
def zero : Binary64 := { mantissa := 0, exponent := minExponent }

/-- Whether a number is zero. -/
def isZero (x : Binary64) : Bool := x.mantissa == 0

/-- The power `base ^ exponent` as a quotient of natural numbers. -/
def powerRatio (base : Nat) (exponent : Int) : Nat × Nat :=
  if 0 ≤ exponent then (Nat.pow base exponent.toNat, 1)
  else (1, Nat.pow base (-exponent).toNat)

/-- The quotient rounded to the nearest integer, a tie going to the even one. -/
def roundDiv (numerator denominator : Nat) : Nat :=
  let quotient := numerator / denominator
  let twice := 2 * (numerator % denominator)
  if denominator < twice || (twice = denominator && quotient % 2 = 1) then quotient + 1
  else quotient

/-- The exponent at which the mantissa of a positive quotient has 53 bits, or the least one. -/
def ratioExponent (numerator denominator : Nat) : Int :=
  let estimate : Int := (numerator.log2 : Int) - denominator.log2 - 52
  let (up, down) := powerRatio 2 estimate
  let exact := if numerator * down < Nat.pow 2 52 * (denominator * up) then estimate - 1
    else estimate
  max exact minExponent

/-- The number nearest to a quotient; `none` when it exceeds the largest number. -/
def ofRatio? (numerator denominator : Nat) : Option Binary64 :=
  if numerator = 0 then some zero
  else
    let exponent := ratioExponent numerator denominator
    let (up, down) := powerRatio 2 exponent
    let mantissa := roundDiv (numerator * down) (denominator * up)
    let rounded : Binary64 :=
      if mantissa = Nat.pow 2 53 then { mantissa := Nat.pow 2 52, exponent := exponent + 1 }
      else { mantissa, exponent }
    if rounded.exponent ≤ maxExponent then some rounded else none

/-- The number as a quotient of natural numbers. -/
def ratio (x : Binary64) : Nat × Nat :=
  let (up, down) := powerRatio 2 x.exponent
  (x.mantissa * up, down)

/-- The rounded product. -/
def mul? (x y : Binary64) : Option Binary64 :=
  ofRatio? (x.ratio.1 * y.ratio.1) (x.ratio.2 * y.ratio.2)

/-- The rounded quotient by a number that is not zero. -/
def div? (x y : Binary64) : Option Binary64 :=
  ofRatio? (x.ratio.1 * y.ratio.2) (x.ratio.2 * y.ratio.1)

/-- The largest decimal exponent whose power of ten is a number. -/
def maxDecimalExponent : Nat := 308

/-- A number divided by a power of ten, in steps of at most `10 ^ 308`, each rounded. -/
def scaleDown (x : Binary64) (places : Nat) : Binary64 :=
  if x.isZero then x
  else if places ≤ maxDecimalExponent then
    ((ofRatio? (Nat.pow 10 places) 1).bind x.div?).getD zero
  else
    let step := ((ofRatio? (Nat.pow 10 maxDecimalExponent) 1).bind x.div?).getD zero
    scaleDown step (places - maxDecimalExponent)
termination_by places
decreasing_by
  simp only [maxDecimalExponent] at *
  omega

/-- The number read from a decimal significand and exponent, rounding the significand, the power
of ten and their product or quotient in turn; `none` when it exceeds the largest number. -/
def ofDecimal? (significand : Nat) (exponent : Int) : Option Binary64 := do
  let x ← ofRatio? significand 1
  if x.isZero then return x
  if 0 ≤ exponent then
    if maxDecimalExponent < exponent.toNat then none
    else x.mul? (← ofRatio? (Nat.pow 10 exponent.toNat) 1)
  else return x.scaleDown (-exponent).toNat

end Binary64

end DeadSymbols
