import ObjectQuery.Number.Shortest

/-!
# Written forms of floating point numbers

Three layouts share the shortest digits of a number. The plain form never has an
exponent, and no point unless digits follow it. The diagnostic form and the JSON
form always show a point or an exponent, and change to an exponent for large and
small magnitudes, each at its own bounds.
-/

namespace ObjectQuery

namespace Decimal

/-- The digits of a decimal as characters. -/
def digitCharacters (decimal : Decimal) : List Char :=
  Nat.toDigits 10 decimal.digits

/-- The exponent of the first digit. -/
def leadingExponent (decimal : Decimal) : Int :=
  decimal.exponent + (decimal.digitCharacters.length : Int) - 1

/-- Positional digits, split at the point. -/
def positional (decimal : Decimal) : List Char × List Char :=
  let digits := decimal.digitCharacters
  if 0 ≤ decimal.exponent then
    (digits ++ List.replicate decimal.exponent.toNat '0', [])
  else
    let places := (-decimal.exponent).toNat
    if places < digits.length then
      (digits.take (digits.length - places), digits.drop (digits.length - places))
    else
      (['0'], List.replicate (places - digits.length) '0' ++ digits)

/-- First digit, point, remaining digits and exponent. -/
def scientific (decimal : Decimal) (mark : List Char) : List Char :=
  let mantissa :=
    match decimal.digitCharacters with
    | [] => []
    | [digit] => [digit]
    | digit :: rest => digit :: '.' :: rest
  let exponent := decimal.leadingExponent
  mantissa ++ mark ++ (if exponent < 0 then ['-'] else []) ++
    Nat.toDigits 10 exponent.natAbs

end Decimal

namespace Binary64

/-- Where a layout writes an exponent, and how. -/
structure ExponentRule where
  /-- Leading exponents from here on are written. -/
  above : Int
  /-- Leading exponents below this one are written. -/
  below : Int
  /-- Whether a positive exponent has a sign. -/
  signed : Bool

/-- The sign and the name or digits of a number, digits written by `finite`. -/
def layout (finite : Decimal → List Char) (number : Binary64) : String :=
  if number.isNaN then
    "NaN"
  else
    let sign := if number.isNegative then ['-'] else []
    let body :=
      if number.isFinite then finite (Decimal.shortest number) else ['i', 'n', 'f']
    String.ofList (sign ++ body)

/-- Digits without exponent, with a point only before further digits. -/
def plainDigits (decimal : Decimal) : List Char :=
  match decimal.positional with
  | (whole, []) => whole
  | (whole, fraction) => whole ++ '.' :: fraction

/-- Digits with a point or an exponent, as the rule says. -/
def markedDigits (rule : ExponentRule) (decimal : Decimal) : List Char :=
  let exponent := decimal.leadingExponent
  if decimal.digits ≠ 0 ∧ (rule.above ≤ exponent ∨ exponent < rule.below) then
    decimal.scientific (if rule.signed && 0 ≤ exponent then ['e', '+'] else ['e'])
  else
    match decimal.positional with
    | (whole, []) => whole ++ ['.', '0']
    | (whole, fraction) => whole ++ '.' :: fraction

/-- The plain form, as in text and in decimals made from a number. -/
def toPlain (number : Binary64) : String :=
  number.layout plainDigits

/-- The form of diagnostic messages. -/
def toDiagnostic (number : Binary64) : String :=
  number.layout (markedDigits ⟨16, -4, false⟩)

/-- The form of a JSON document; a finite number is taken for granted. -/
def toJsonText (number : Binary64) : String :=
  number.layout (markedDigits ⟨16, -5, true⟩)

end Binary64
end ObjectQuery
