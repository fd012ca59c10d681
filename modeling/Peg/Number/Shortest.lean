import Peg.Number.Binary

/-! # Shortest decimal form

The decimal with the fewest digits that reads back as a given double, and of several such decimals
the nearest one; then its layout, positional between 10^-4 and 10^16 and with an exponent
elsewhere. -/

namespace Peg.Number

/-- A decimal number `digits · 10 ^ exponent`. -/
structure Decimal where
  /-- All digits as one natural number. -/
  digits : Nat
  /-- The power of ten. -/
  exponent : Int

/-- Compares `left · 10 ^ ten` with `right · 2 ^ two`. -/
def compareScaled (left : Nat) (ten : Int) (right : Nat) (two : Int) : Ordering :=
  compare (left * Nat.pow 10 ten.toNat * Nat.pow 2 (-two).toNat)
    (right * Nat.pow 2 two.toNat * Nat.pow 10 (-ten).toNat)

/-- The exponent of the leading digit of `significand · 2 ^ exponent`. -/
def leadingExponent (significand : Nat) (exponent : Int) : Int :=
  let guess := ((significand.log2 : Int) + exponent) * 30103 / 100000
  if compareScaled 1 (guess + 1) significand exponent != .gt then guess + 1
  else if compareScaled 1 guess significand exponent == .gt then guess - 1
  else guess

/-- The largest natural number whose multiple of `10 ^ ten` does not exceed
`significand · 2 ^ exponent`. -/
def floorScaled (significand : Nat) (exponent ten : Int) : Nat :=
  (significand * Nat.pow 2 exponent.toNat * Nat.pow 10 (-ten).toNat)
    / (Nat.pow 10 ten.toNat * Nat.pow 2 (-exponent).toNat)

/-- The decimals that read back as one double, in units of a quarter of its last place: from
`low` to `high`, the ends included only if `closed`. -/
structure ReadBack where
  /-- The lower end. -/
  low : Nat
  /-- The double itself. -/
  centre : Nat
  /-- The upper end. -/
  high : Nat
  /-- The power of two of the unit. -/
  exponent : Int
  /-- The ends read back as well. -/
  closed : Bool

/-- The interval around a positive double: half a unit of the last place to each side, and a
quarter below a power of two. -/
def ReadBack.around (significand : Nat) (exponent : Int) : ReadBack where
  low := if significand = Nat.pow 2 52 && exponent != -1074 then 4 * significand - 1
    else 4 * significand - 2
  centre := 4 * significand
  high := 4 * significand + 2
  exponent := exponent - 2
  closed := significand % 2 = 0

/-- The decimal lies in the interval. -/
def ReadBack.contains (interval : ReadBack) (decimal : Decimal) : Bool :=
  let toLow := compareScaled decimal.digits decimal.exponent interval.low interval.exponent
  let toHigh := compareScaled decimal.digits decimal.exponent interval.high interval.exponent
  (toLow == .gt || (interval.closed && toLow == .eq))
    && (toHigh == .lt || (interval.closed && toHigh == .eq))

/-- Of the two decimals next to the centre with `10 ^ ten` as unit, the one that reads back; the
nearer one if both do. -/
def ReadBack.onGrid? (interval : ReadBack) (ten : Int) : Option Decimal :=
  let below := floorScaled interval.centre interval.exponent ten
  let down : Decimal := ⟨below, ten⟩
  let up : Decimal := ⟨below + 1, ten⟩
  match interval.contains down, interval.contains up with
  | true, true =>
    match compareScaled (2 * below + 1) ten (2 * interval.centre) interval.exponent with
    | .gt => some down
    | .lt => some up
    | .eq => some (if below % 2 = 0 then down else up)
  | true, false => some down
  | false, true => some up
  | false, false => none

/-- The shortest decimal that reads back as `significand · 2 ^ exponent`. -/
def shortest (significand : Nat) (exponent : Int) : Decimal :=
  let interval := ReadBack.around significand exponent
  let leading := leadingExponent significand exponent
  match (List.range 17).findSome? fun n : Nat => interval.onGrid? (leading - n) with
  | some decimal => decimal
  | none => ⟨floorScaled interval.centre interval.exponent (leading - 16), leading - 16⟩

/-- The decimal digits of a natural number. -/
def decimalDigits (n : Nat) : List Char := Nat.toDigits 10 n

/-- Digits without the zeros at their end. -/
def withoutTrailingZeros (digits : List Char) : List Char :=
  (digits.reverse.dropWhile (· == '0')).reverse

/-- Lays out the digits of a positive number whose point stands after the first `point` digits. -/
def layOut (digits : List Char) (point : Int) : List Char :=
  if -4 < point && point ≤ 16 then
    if point ≤ 0 then '0' :: '.' :: List.replicate (-point).toNat '0' ++ digits
    else
      let whole := digits.take point.toNat
      let zeros := List.replicate (point.toNat - whole.length) '0'
      let fraction := digits.drop point.toNat
      whole ++ zeros ++ '.' :: (if fraction.isEmpty then ['0'] else fraction)
  else
    let fraction := digits.drop 1
    let power := point - 1
    let places := decimalDigits power.natAbs
    let padded := if places.length < 2 then '0' :: places else places
    digits.take 1 ++ (if fraction.isEmpty then [] else '.' :: fraction)
      ++ 'e' :: (if power < 0 then '-' else '+') :: padded

/-- The written form of a double. -/
def writeFloat (x : Float) : String :=
  match shape x with
  | .nan => "nan"
  | .infinite negative => if negative then "-inf" else "inf"
  | .finite negative significand exponent =>
    let magnitude :=
      if significand = 0 then ['0', '.', '0']
      else
        let decimal := shortest significand exponent
        let digits := decimalDigits decimal.digits
        layOut (withoutTrailingZeros digits) (digits.length + decimal.exponent)
    String.ofList (if negative then '-' :: magnitude else magnitude)

end Peg.Number
