namespace ClusterClient.Json

/-!
# Double-precision numbers

A number outside the integers of a document is a finite binary64 number, held
by its bits. This module decodes bits into a significand and a power of two,
rounds exact fractions to the nearest double (a tie goes to the even
significand), and finds the shortest decimal that reads back.

All arithmetic is exact arithmetic on natural numbers.
-/

/-- A binary64 number by its bits. -/
structure Double where
  bits : UInt64
  deriving Repr, DecidableEq

namespace Double

/-- The weight of the sign bit. -/
def signPlace : Nat := 0x8000000000000000

/-- The weight of the lowest exponent bit, and of a significand's first bit. -/
def exponentPlace : Nat := 0x10000000000000

/-- The sign bit is set. -/
def isNegative (number : Double) : Bool :=
  number.bits.toNat / signPlace = 1

/-- The bits without the sign. -/
def magnitudeBits (number : Double) : Nat :=
  number.bits.toNat % signPlace

/-- The significand of a finite magnitude. -/
def significand (number : Double) : Nat :=
  let exponentField := number.magnitudeBits / exponentPlace
  let fraction := number.magnitudeBits % exponentPlace
  if exponentField = 0 then fraction else fraction + exponentPlace

/-- The power of two that the significand of a finite magnitude is scaled by. -/
def exponent (number : Double) : Int :=
  let exponentField : Nat := number.magnitudeBits / exponentPlace
  if exponentField = 0 then -1074 else (exponentField : Int) - 1075

/-- The double with the given sign and magnitude bits. -/
def ofMagnitudeBits (negative : Bool) (magnitude : Nat) : Double :=
  ⟨UInt64.ofNat (if negative then magnitude + signPlace else magnitude)⟩

/-- Positive zero. -/
def zero : Double := ⟨0⟩

/-- The magnitude bits that stand for infinity. -/
def infinityBits : Nat := 2047 * exponentPlace

/-- The quotient of two natural numbers rounded to nearest, ties to even. -/
def roundQuotient (numerator denominator : Nat) : Nat :=
  let quotient := numerator / denominator
  let twiceRemainder := 2 * (numerator % denominator)
  if twiceRemainder < denominator then
    quotient
  else if denominator < twiceRemainder then
    quotient + 1
  else if quotient % 2 = 0 then
    quotient
  else
    quotient + 1

/-- Multiply a natural number by a power of two with a natural exponent. -/
def scaleUp (value : Nat) (power : Int) : Nat :=
  value * Nat.pow 2 power.toNat

/--
The magnitude bits of the double nearest to a positive fraction.

The result is `infinityBits` when the fraction is too large.
-/
def nearestBits (numerator denominator : Nat) : Nat :=
  let estimate : Int := (numerator.log2 : Int) - (denominator.log2 : Int)
  let binaryExponent : Int :=
    if scaleUp numerator (-estimate) < scaleUp denominator estimate then
      estimate - 1
    else
      estimate
  let unit : Int := max (binaryExponent - 52) (-1074)
  let rounded :=
    roundQuotient (scaleUp numerator (-unit)) (scaleUp denominator unit)
  if rounded < exponentPlace then
    rounded
  else
    min ((unit + 1074).toNat * exponentPlace + rounded) infinityBits

/-- The magnitude bits of the double nearest to a fraction that may be zero. -/
def magnitudeOfQuotient (numerator denominator : Nat) : Nat :=
  if numerator = 0 then 0 else nearestBits numerator denominator

/-- The double nearest to a natural number. -/
def ofNat (value : Nat) : Double :=
  ofMagnitudeBits false (magnitudeOfQuotient value 1)

/-- The product of two finite magnitudes, rounded. -/
def multiply (left right : Double) : Double :=
  let power := left.exponent + right.exponent
  ofMagnitudeBits false
    (magnitudeOfQuotient
      (scaleUp (left.significand * right.significand) power)
      (scaleUp 1 (-power)))

/-- The quotient of a finite magnitude by a positive one, rounded. -/
def divide (left right : Double) : Double :=
  let power := left.exponent - right.exponent
  ofMagnitudeBits false
    (magnitudeOfQuotient
      (scaleUp left.significand power)
      (scaleUp right.significand (-power)))

/-- The largest power of ten that a double can hold. -/
def largestTenPower : Nat := 308

/-- A power of ten, rounded. -/
def tenPower (power : Nat) : Double :=
  ofNat (Nat.pow 10 power)

/--
A magnitude divided by a power of ten, in steps of at most the largest power of
ten that a double can hold. Each step rounds.
-/
def divideByTenPower (magnitude : Double) (power : Nat) : Double :=
  if power ≤ largestTenPower then
    divide magnitude (tenPower power)
  else if magnitude.magnitudeBits = 0 then
    magnitude
  else
    divideByTenPower (divide magnitude (tenPower largestTenPower))
      (power - largestTenPower)
  termination_by power
  decreasing_by
    simp only [largestTenPower] at *
    omega

/--
The magnitude of a decimal: the digits are rounded to a double, which is then
multiplied or divided by a power of ten. None when the result is too large.
-/
def ofScientific? (digits : Nat) (power : Int) : Option Double :=
  let magnitude := ofNat digits
  if power < 0 then
    some (divideByTenPower magnitude (-power).toNat)
  else if magnitude.magnitudeBits = 0 then
    some magnitude
  else if largestTenPower < power.toNat then
    none
  else
    let product := multiply magnitude (tenPower power.toNat)
    if product.magnitudeBits < infinityBits then some product else none

/-- The same magnitude with the given sign. -/
def withSign (negative : Bool) (number : Double) : Double :=
  ofMagnitudeBits negative number.magnitudeBits

/-- The number of decimal digits of a natural number. -/
def digitCount (value : Nat) : Nat :=
  (Nat.toDigits 10 value).length

/-- The power of ten of the leading digit of a positive fraction. -/
def leadingTenPower (numerator denominator : Nat) : Int :=
  if denominator ≤ numerator then
    (digitCount (numerator / denominator) : Int) - 1
  else
    -(digitCount ((denominator - 1) / numerator) : Int)

/-- Digits together with the power of ten that scales them. -/
structure Decimal where
  digits : Nat
  power : Int
  deriving Repr, DecidableEq

/-- The same decimal without trailing zero digits. -/
def Decimal.trimmed (decimal : Decimal) : Decimal :=
  if decimal.digits ≠ 0 ∧ decimal.digits % 10 = 0 then
    Decimal.trimmed ⟨decimal.digits / 10, decimal.power + 1⟩
  else
    decimal
  termination_by decimal.digits

/-- The nonzero magnitude in quarter units: value and the half-way points. -/
structure Neighbourhood where
  below : Nat
  value : Nat
  above : Nat
  includesEnds : Bool
  power : Int
  deriving Repr, DecidableEq

/--
The interval of reals that round to a positive finite magnitude.

The lower half-way point is nearer when the significand is the smallest of its
binade; the ends belong to the interval when the significand is even.
-/
def neighbourhood (number : Double) : Neighbourhood where
  below :=
    if number.significand = exponentPlace ∧ number.exponent ≠ -1074 then
      4 * number.significand - 1
    else
      4 * number.significand - 2
  value := 4 * number.significand
  above := 4 * number.significand + 2
  includesEnds := number.significand % 2 = 0
  power := number.exponent - 2

/-- The decimal grid of a given unit, as two scale factors. -/
structure Grid where
  decimalScale : Nat
  binaryScale : Nat

/--
Bring multiples of the power of ten `unit` and of the power of two `power` to a
common scale.
-/
def grid (unit power : Int) : Grid where
  decimalScale := Nat.pow 10 unit.toNat * Nat.pow 2 (-power).toNat
  binaryScale := Nat.pow 10 (-unit).toNat * Nat.pow 2 power.toNat

/-- A point of the grid lies in the interval that rounds to the number. -/
def Neighbourhood.holds
    (around : Neighbourhood)
    (scales : Grid)
    (digits : Nat) : Bool :=
  let point := digits * scales.decimalScale
  let low := around.below * scales.binaryScale
  let high := around.above * scales.binaryScale
  if around.includesEnds then
    low ≤ point && point ≤ high
  else
    low < point && point < high

/--
The point of the grid with a given count of digits that reads back, if one of
the two neighbours of the value does; the nearer one wins, a tie goes to the
even digits.
-/
def decimalOfDigits?
    (around : Neighbourhood)
    (leading : Int)
    (count : Nat) : Option Decimal :=
  let unit := leading - (count : Int) + 1
  let scales := grid unit around.power
  let scaled := around.value * scales.binaryScale
  let lower := scaled / scales.decimalScale
  let upper := lower + 1
  let toLower := scaled - lower * scales.decimalScale
  let toUpper := upper * scales.decimalScale - scaled
  match around.holds scales lower, around.holds scales upper with
  | false, false => none
  | true, false => some ⟨lower, unit⟩
  | false, true => some ⟨upper, unit⟩
  | true, true =>
      if toLower < toUpper ∨ (toLower = toUpper ∧ lower % 2 = 0) then
        some ⟨lower, unit⟩
      else
        some ⟨upper, unit⟩

/-- Search the grids from `count` digits on, for at most `more` further ones. -/
def searchDecimal
    (around : Neighbourhood)
    (leading : Int)
    (count : Nat) :
    (more : Nat) → Decimal
  | 0 => ⟨0, 0⟩
  | more + 1 =>
      match decimalOfDigits? around leading count with
      | some decimal => decimal
      | none => searchDecimal around leading (count + 1) more

/-- The shortest decimal that reads back as a positive finite magnitude. -/
def shortest (number : Double) : Decimal :=
  let around := number.neighbourhood
  let leading :=
    leadingTenPower
      (scaleUp around.value around.power)
      (scaleUp 1 (-around.power))
  (searchDecimal around leading 1 17).trimmed

end Double

end ClusterClient.Json
