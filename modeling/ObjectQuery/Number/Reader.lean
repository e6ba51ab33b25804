import ObjectQuery.Number.Binary64

/-!
# Reading numbers

An integer is an optional sign and decimal digits. A floating point number has
digits before or after a point, or both, and an optional exponent; the names of
infinity and NaN may be written in any case. The value is the number nearest to
the decimal, a half to the even neighbour.
-/

namespace ObjectQuery
namespace Number

/-- The value of a run of decimal digits. -/
def ofDigits (digits : List Char) : Nat :=
  digits.foldl (fun value digit => 10 * value + (digit.toNat - 48)) 0

theorem isDigit_of_mem_toDigits {number : Nat} {character : Char}
    (member : character ∈ Nat.toDigits 10 number) : character.isDigit = true :=
  Nat.isDigit_of_mem_toDigits (by decide) (by decide) member

theorem notMem_toDigits {character : Char} (noDigit : character.isDigit = false) (number : Nat) :
    character ∉ Nat.toDigits 10 number := by
  intro member
  rw [isDigit_of_mem_toDigits member] at noDigit
  cases noDigit

/-- The digits tell the number. -/
theorem toDigits_injective {number number' : Nat}
    (equal : Nat.toDigits 10 number = Nat.toDigits 10 number') : number = number' := by
  have read := congrArg (fun digits => Nat.ofDigitChars 10 digits 0) equal
  simpa using read

/-- What holds of every digit holds of the digits of a number. -/
theorem all_toDigits {holds : Char → Bool}
    (ofDigit : ∀ {character : Char}, character.isDigit = true → holds character = true)
    (number : Nat) : (Nat.toDigits 10 number).all holds = true :=
  List.all_eq_true.mpr fun _ member => ofDigit (isDigit_of_mem_toDigits member)

/-- An integer is written as its digits, behind a sign if it is negative. -/
theorem toList_toString (number : Int) :
    (toString number).toList =
      (if number < 0 then ['-'] else []) ++ Nat.toDigits 10 number.natAbs := by
  cases number with
  | ofNat number =>
      have digits : toString (Int.ofNat number) = String.ofList (Nat.toDigits 10 number) := rfl
      rw [digits, String.toList_ofList]
      simp
  | negSucc number =>
      have digits : toString (Int.negSucc number) =
          "-" ++ String.ofList (Nat.toDigits 10 (number + 1)) := rfl
      rw [digits, String.toList_append, if_pos (Int.negSucc_lt_zero number)]
      simp

/-- The decimal digits at the front, and what follows them. -/
def takeDigits (characters : List Char) : List Char × List Char :=
  (characters.takeWhile Char.isDigit, characters.dropWhile Char.isDigit)

/-- Whether the text begins with a minus sign, and what follows its sign. -/
def takeSign : List Char → Bool × List Char
  | '-' :: rest => (true, rest)
  | '+' :: rest => (false, rest)
  | characters => (false, characters)

/-- The value of an integer text: an optional sign and at least one digit. -/
def integer? (text : String) : Option Int :=
  let (negative, digits) := takeSign text.toList
  if digits.isEmpty || !digits.all Char.isDigit then
    none
  else
    some (if negative then -(ofDigits digits : Int) else ofDigits digits)

/-- An integer as one of sixty-four bits, if it fits. -/
def int64OfInt? (value : Int) : Option Int64 :=
  if Int64.minValue.toInt ≤ value ∧ value ≤ Int64.maxValue.toInt then
    some (Int64.ofInt value)
  else
    none

/-- The value of an integer text that fits sixty-four bits. -/
def int64? (text : String) : Option Int64 :=
  (integer? text).bind int64OfInt?

/-- A decimal number: its sign, its digits, and the power of ten they are times. -/
structure Scientific where
  negative : Bool
  digits : List Char
  exponent : Int
  deriving Repr

/-- The exponent part, zero when there is none. -/
def exponentPart? : List Char → Option Int
  | [] => some 0
  | mark :: rest =>
      if mark = 'e' ∨ mark = 'E' then integer? (String.ofList rest) else none

/-- The parts of an unsigned decimal number. -/
def unsigned? (negative : Bool) (characters : List Char) : Option Scientific :=
  let (whole, afterWhole) := takeDigits characters
  let (fraction, rest) :=
    match afterWhole with
    | '.' :: afterPoint => takeDigits afterPoint
    | other => ([], other)
  if whole.isEmpty && fraction.isEmpty then
    none
  else
    (exponentPart? rest).map fun exponent =>
      ⟨negative, whole ++ fraction, exponent - (fraction.length : Int)⟩

/--
The number nearest to a decimal. Magnitudes beyond the range of the format are
decided by the position of the first digit alone.
-/
def Scientific.toBinary64 (number : Scientific) : Binary64 :=
  let digits := number.digits.dropWhile (· == '0')
  let top := (digits.length : Int) + number.exponent
  if digits.isEmpty || top < -400 then
    Binary64.ofQuotient number.negative 0 1
  else if 400 < top then
    Binary64.infinity number.negative
  else if 0 ≤ number.exponent then
    Binary64.ofQuotient number.negative (ofDigits digits * Nat.pow 10 number.exponent.toNat) 1
  else
    Binary64.ofQuotient number.negative (ofDigits digits) (Nat.pow 10 (-number.exponent).toNat)

/-- The number that a text writes, if it writes one. -/
def binary64? (text : String) : Option Binary64 :=
  let (negative, characters) := takeSign text.toList
  let name := String.ofList (characters.map Char.toLower)
  if name = "nan" then
    some (if negative then Binary64.ofMagnitude true Binary64.nan.magnitudeBits else Binary64.nan)
  else if name = "inf" ∨ name = "infinity" then
    some (Binary64.infinity negative)
  else
    (unsigned? negative characters).map Scientific.toBinary64

end Number
end ObjectQuery
