import ObjectQuery.Number.Binary64

/-!
# Shortest decimals

The decimal of a floating point number is the one with the fewest digits among
those that read back as the number, and of these the nearest; of two equally near
ones the larger magnitude is taken. A decimal reads back when it lies between the
midpoints to the two neighbouring numbers; the midpoints themselves belong to a
number with an even significand.

Everything is measured in quarters of the last binary place, which makes the
midpoints integers.
-/

namespace ObjectQuery

/-- A natural number times a power of ten. -/
structure Decimal where
  digits : Nat
  exponent : Int
  deriving DecidableEq, Repr

namespace Decimal

/-- A finite number's value and the ends of the interval that reads back as it. -/
structure Span where
  /-- The value, in quarters of the last binary place. -/
  value : Nat
  /-- The midpoint to the next smaller magnitude. -/
  low : Nat
  /-- The midpoint to the next larger magnitude. -/
  high : Nat
  /-- Whether the midpoints belong to the interval. -/
  closed : Bool
  /-- The binary exponent of a quarter of the last place. -/
  exponent : Int
  deriving Repr

/-- The interval of a finite number other than zero. -/
def spanOf (number : Binary64) : Span :=
  let significand := number.significand
  let narrow := significand = Nat.pow 2 52 && 1 < number.exponentBits
  { value := 4 * significand
    low := 4 * significand - (if narrow then 1 else 2)
    high := 4 * significand + 2
    closed := significand % 2 = 0
    exponent := number.exponent - 2 }

/--
A common scale of binary quarters and decimal units: a magnitude `m` in quarters
and a decimal `d` with exponent `power` are compared as `m * fst` and `d * snd`.
-/
def scales (span : Span) (power : Int) : Nat × Nat :=
  let binary : Nat × Nat :=
    if 0 ≤ span.exponent then (Nat.pow 2 span.exponent.toNat, 1)
    else (1, Nat.pow 2 (-span.exponent).toNat)
  if 0 ≤ power then
    (binary.1, Nat.pow 10 power.toNat * binary.2)
  else
    (binary.1 * Nat.pow 10 (-power).toNat, binary.2)

/-- Whether a decimal with the given exponent lies in the interval. -/
def within (span : Span) (power : Int) (digits : Nat) : Bool :=
  let scale := scales span power
  let point := digits * scale.2
  if span.closed then
    span.low * scale.1 ≤ point && point ≤ span.high * scale.1
  else
    span.low * scale.1 < point && point < span.high * scale.1

/-- The nearer of the two neighbours of the value on a decimal grid that reads back. -/
def onGrid? (span : Span) (power : Int) : Option Nat :=
  let scale := scales span power
  let value := span.value * scale.1
  let below := value / scale.2
  let above := below + 1
  match within span power below && 0 < below, within span power above with
  | true, true =>
      if above * scale.2 - value ≤ value - below * scale.2 then some above else some below
  | true, false => some below
  | false, true => some above
  | false, false => none

/-- The first hit on the grids from `power` downwards. -/
def search (span : Span) : Nat → Int → Decimal
  | 0, power => ⟨(onGrid? span power).getD 0, power⟩
  | tries + 1, power =>
      match onGrid? span power with
      | some digits => ⟨digits, power⟩
      | none => search span tries (power - 1)

/-- The number of decimal digits. -/
def digitCount (number : Nat) : Nat :=
  (Nat.toDigits 10 number).length

/-- A decimal exponent not below that of the span's upper end. -/
def startingPower (span : Span) : Int :=
  if 0 ≤ span.exponent then
    digitCount (span.high * Nat.pow 2 span.exponent.toNat)
  else
    let digits := digitCount (span.high * Nat.pow 5 (-span.exponent).toNat)
    (digits : Int) + span.exponent

/-- The shortest decimal of a finite number's magnitude; zero has exponent zero. -/
def shortest (number : Binary64) : Decimal :=
  if number.significand = 0 then
    ⟨0, 0⟩
  else
    let span := spanOf number
    search span 20 (startingPower span)

end Decimal
end ObjectQuery
