/-! # Binary floating point

A double as a signed integer times a power of two, the double nearest to a quotient of two natural
numbers, and exact comparison with integers. -/

namespace Peg.Number

/-- What a double holds. -/
inductive Shape where
  /-- The number `significand · 2 ^ exponent`, negated if `negative`. -/
  | finite (negative : Bool) (significand : Nat) (exponent : Int)
  /-- Infinity of either sign. -/
  | infinite (negative : Bool)
  /-- Not a number. -/
  | nan

/-- Reads sign, exponent and significand off the bits of a double. -/
def shape (x : Float) : Shape :=
  let bits : Nat := x.toBits.toNat
  let negative := bits / Nat.pow 2 63 == 1
  let field : Nat := bits / Nat.pow 2 52 % Nat.pow 2 11
  let fraction : Nat := bits % Nat.pow 2 52
  if field == 0x7FF then
    if fraction == 0 then .infinite negative else .nan
  else if field == 0 then .finite negative fraction (-1074)
  else .finite negative (fraction + Nat.pow 2 52) ((field : Int) - 1075)

/-- The quotient rounded to the nearest integer, a half going to the even neighbour. -/
def roundHalfEven (numerator denominator : Nat) : Nat :=
  let quotient := numerator / denominator
  let twice := 2 * (numerator % denominator)
  if twice < denominator then quotient
  else if denominator < twice then quotient + 1
  else if quotient % 2 = 0 then quotient else quotient + 1

/-- Numerator and denominator of `numerator / denominator · 2 ^ (-exponent)`. -/
def scaleBy (exponent : Int) (numerator denominator : Nat) : Nat × Nat :=
  if 0 ≤ exponent then (numerator, denominator * Nat.pow 2 exponent.toNat)
  else (numerator * Nat.pow 2 (-exponent).toNat, denominator)

/-- The exponent at which a quotient has a significand of 53 bits, or the least exponent there
is. -/
def quotientExponent (numerator denominator : Nat) : Int :=
  let estimate : Int := (numerator.log2 : Int) - denominator.log2 - 53
  let (top, bottom) := scaleBy estimate numerator denominator
  let exponent := if Nat.pow 2 53 ≤ top / bottom then estimate + 1 else estimate
  max exponent (-1074)

/-- The double nearest to a quotient, a half going to the even neighbour; `none` if the quotient
is too large. -/
def nearestQuotient? (numerator denominator : Nat) : Option Float :=
  if numerator = 0 then some 0.0
  else
    let exponent := quotientExponent numerator denominator
    let (top, bottom) := scaleBy exponent numerator denominator
    let significand := roundHalfEven top bottom
    let bits := (exponent + 1074).toNat * Nat.pow 2 52 + significand
    if bits < 0x7FF * Nat.pow 2 52 then some (Float.ofBits bits.toUInt64) else none

/-- The nearest double of a signed quotient. -/
def signedQuotient? (negative : Bool) (numerator denominator : Nat) : Option Float :=
  (nearestQuotient? numerator denominator).map fun x => if negative then -x else x

/-- The double nearest to an integer; `none` if the integer is too large. -/
def ofInt? (n : Int) : Option Float := signedQuotient? (n < 0) n.natAbs 1

/-- The integer part of a finite double. -/
def truncate (negative : Bool) (significand : Nat) (exponent : Int) : Int :=
  let magnitude :=
    if 0 ≤ exponent then significand * Nat.pow 2 exponent.toNat
    else significand / Nat.pow 2 (-exponent).toNat
  if negative then -(magnitude : Int) else magnitude

/-- Exact comparison of an integer with a double; `none` if the double is not a number. -/
def compareInt (n : Int) (x : Float) : Option Ordering :=
  match shape x with
  | .nan => none
  | .infinite negative => some (if negative then .gt else .lt)
  | .finite negative significand exponent =>
    let signed : Int := if negative then -(significand : Int) else significand
    let (left, right) :=
      if 0 ≤ exponent then (n, signed * Nat.pow 2 exponent.toNat)
      else (n * Nat.pow 2 (-exponent).toNat, signed)
    some (compare left right)

end Peg.Number
