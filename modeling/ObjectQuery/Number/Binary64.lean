/-!
# Double precision numbers

A floating point number of the binary64 format, given by its bits: a sign, eleven
bits of exponent and fifty-two of fraction. A finite number is a significand
times a power of two, so that order, conversion to integers and rounding are
exact integer arithmetic.
-/

namespace ObjectQuery

/-- A number of the binary64 interchange format, given by its bits. -/
structure Binary64 where
  bits : UInt64
  deriving DecidableEq, Repr

namespace Binary64

/-- The bits below the sign, which order the numbers of one sign by magnitude. -/
def magnitudeBits (number : Binary64) : Nat :=
  number.bits.toNat % Nat.pow 2 63

/-- Whether the sign bit is set. -/
def isNegative (number : Binary64) : Bool :=
  Nat.pow 2 63 ≤ number.bits.toNat

/-- The eleven bits of exponent. -/
def exponentBits (number : Binary64) : Nat :=
  number.magnitudeBits / Nat.pow 2 52

/-- The fifty-two bits of fraction. -/
def fractionBits (number : Binary64) : Nat :=
  number.magnitudeBits % Nat.pow 2 52

/-- Neither infinite nor a NaN. -/
def isFinite (number : Binary64) : Bool :=
  number.exponentBits != 2047

/-- Not a number. -/
def isNaN (number : Binary64) : Bool :=
  number.exponentBits == 2047 && number.fractionBits != 0

/-- The integer that a finite number's power of two is multiplied by. -/
def significand (number : Binary64) : Nat :=
  if number.exponentBits = 0 then
    number.fractionBits
  else
    Nat.pow 2 52 + number.fractionBits

/-- The exponent of a finite number's power of two. -/
def exponent (number : Binary64) : Int :=
  if number.exponentBits = 0 then -1074 else (number.exponentBits : Int) - 1075

/-- The number with a given sign and given bits below it. -/
def ofMagnitude (negative : Bool) (magnitude : Nat) : Binary64 :=
  ⟨UInt64.ofNat (if negative then Nat.pow 2 63 + magnitude else magnitude)⟩

/-- The bits of the infinite magnitude. -/
def infiniteMagnitude : Nat :=
  2047 * Nat.pow 2 52

/-- The infinite number of a sign. -/
def infinity (negative : Bool) : Binary64 :=
  ofMagnitude negative infiniteMagnitude

/-- The quiet NaN with an empty payload. -/
def nan : Binary64 :=
  ofMagnitude false (infiniteMagnitude + Nat.pow 2 51)

/-- Zero. -/
def zero : Binary64 :=
  ⟨0⟩

instance : Inhabited Binary64 :=
  ⟨zero⟩

/-- A key that orders the numbers which are not NaN; both zeros have key zero. -/
def orderKey (number : Binary64) : Int :=
  if number.isNegative then -(number.magnitudeBits : Int) else number.magnitudeBits

/-- The order of two numbers; a NaN compares with nothing. -/
def compare? (left right : Binary64) : Option Ordering :=
  if left.isNaN || right.isNaN then
    none
  else
    some (compare left.orderKey right.orderKey)

/-- The quotient rounded to the nearest integer, a half to the even neighbour. -/
def roundQuotient (numerator denominator : Nat) : Nat :=
  let quotient := numerator / denominator
  let remainder := numerator % denominator
  if 2 * remainder < denominator then
    quotient
  else if denominator < 2 * remainder then
    quotient + 1
  else
    quotient + quotient % 2

/-- Numerator and denominator of a quotient divided by a power of two. -/
def scaleDown (numerator denominator : Nat) (power : Int) : Nat × Nat :=
  if 0 ≤ power then
    (numerator, denominator * Nat.pow 2 power.toNat)
  else
    (numerator * Nat.pow 2 (-power).toNat, denominator)

/--
The exponent at which a quotient has fifty-three binary digits, or the least
exponent of the format.
-/
def targetExponent (numerator denominator : Nat) : Int :=
  let guess : Int := (numerator.log2 : Int) - denominator.log2 - 52
  let scaled := scaleDown numerator denominator guess
  let power := if scaled.1 < scaled.2 * Nat.pow 2 52 then guess - 1 else guess
  max power (-1074)

/-- The number nearest to a quotient, a half to the even neighbour. -/
def ofQuotient (negative : Bool) (numerator denominator : Nat) : Binary64 :=
  if numerator = 0 then
    ofMagnitude negative 0
  else
    let power := targetExponent numerator denominator
    let scaled := scaleDown numerator denominator power
    let magnitude :=
      (power + 1074).toNat * Nat.pow 2 52 + roundQuotient scaled.1 scaled.2
    ofMagnitude negative (min magnitude infiniteMagnitude)

/-- The number nearest to an integer. -/
def ofInt (value : Int) : Binary64 :=
  ofQuotient (value < 0) value.natAbs 1

/-- The integer equal to a number, if there is one. -/
def toInt? (number : Binary64) : Option Int :=
  if number.isFinite then
    let magnitude : Option Nat :=
      if 0 ≤ number.exponent then
        some (number.significand * Nat.pow 2 number.exponent.toNat)
      else
        let unit := Nat.pow 2 (-number.exponent).toNat
        if number.significand % unit = 0 then some (number.significand / unit) else none
    magnitude.map fun natural => if number.isNegative then -(natural : Int) else natural
  else
    none

end Binary64
end ObjectQuery
