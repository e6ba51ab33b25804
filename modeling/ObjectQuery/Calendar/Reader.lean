import ObjectQuery.Calendar.DateTime
import ObjectQuery.Number.Reader
import ObjectQuery.Text.Blank

/-!
# Reading dates and times

Each reader takes its part from the front of the text and gives back what
follows. Blanks may stand before a number and around the separators. A year has at
most four digits unless it is signed; the other numbers have one or two. A
fraction of a second keeps nine digits and passes over the rest.
-/

namespace ObjectQuery
namespace Calendar

/-- What follows leading blanks. -/
def skipBlanks (characters : List Char) : List Char :=
  characters.dropWhile Text.isBlankCharacter

/-- A number of one to `width` digits. -/
def number? (width : Nat) (characters : List Char) : Option (Nat × List Char) :=
  let trimmed := skipBlanks characters
  let digits := (trimmed.take width).takeWhile Char.isDigit
  if digits.isEmpty then
    none
  else
    some (Number.ofDigits digits, trimmed.drop digits.length)

/-- A year: four digits at most, or a sign and any number of digits. -/
def year? (characters : List Char) : Option (Int × List Char) :=
  let signed (negative : Bool) (rest : List Char) : Option (Int × List Char) :=
    let digits := rest.takeWhile Char.isDigit
    if digits.isEmpty then
      none
    else
      let value : Int := Number.ofDigits digits
      some (if negative then -value else value, rest.drop digits.length)
  match skipBlanks characters with
  | '-' :: rest => signed true rest
  | '+' :: rest => signed false rest
  | trimmed => (number? 4 trimmed).map fun (value, rest) => ((value : Int), rest)

/-- What follows a separator, with blanks before it. -/
def separator? (mark : Char) (characters : List Char) : Option (List Char) :=
  match skipBlanks characters with
  | first :: rest => if first = mark then some rest else none
  | [] => none

/-- The digits of a fraction as nanoseconds. -/
def nanoseconds (digits : List Char) : Nat :=
  let kept := digits.take 9
  Number.ofDigits kept * Nat.pow 10 (9 - kept.length)

/-- The fraction of a second, zero when there is none. -/
def fraction? (characters : List Char) : Option (Nat × List Char) :=
  match characters with
  | '.' :: rest =>
      let (digits, after) := Number.takeDigits rest
      if digits.isEmpty then none else some (nanoseconds digits, after)
  | _ => some (0, characters)

/-- Year, month and day at the front of a text. -/
def date? (characters : List Char) : Option (Date × List Char) := do
  let (year, rest) ← year? characters
  let rest ← separator? '-' rest
  let (month, rest) ← number? 2 rest
  let rest ← separator? '-' rest
  let (day, rest) ← number? 2 rest
  let date ← Date.ofParts? year month day
  pure (date, rest)

/-- Separator, second and fraction at the front of a text. -/
def seconds? (characters : List Char) : Option (Nat × Nat × List Char) := do
  let rest ← separator? ':' characters
  let (second, rest) ← number? 2 rest
  let (nanosecond, rest) ← fraction? rest
  pure (second, nanosecond, rest)

/-- Hour and minute at the front of a text. -/
def clock? (characters : List Char) : Option (Nat × Nat × List Char) := do
  let (hour, rest) ← number? 2 characters
  let rest ← separator? ':' rest
  let (minute, rest) ← number? 2 rest
  pure (hour, minute, rest)

/-- Nothing but blanks. -/
def atEnd (characters : List Char) : Bool :=
  (skipBlanks characters).isEmpty

end Calendar

open Calendar

/-- The date that a text writes. -/
def Date.ofText? (text : String) : Option Date := do
  let (date, rest) ← date? text.toList
  if atEnd rest then pure date else none

/-- The time that a text writes; seconds may be left out. -/
def TimeOfDay.ofText? (text : String) : Option TimeOfDay := do
  let (hour, minute, rest) ← clock? text.toList
  let (second, nanosecond, rest) := (seconds? rest).getD (0, 0, rest)
  let time ← TimeOfDay.ofParts? hour minute second nanosecond
  if atEnd rest then pure time else none

/-- The point in time that a text writes, date and time separated by `T`. -/
def DateTime.ofText? (text : String) : Option DateTime := do
  let (date, rest) ← date? text.toList
  let rest ← separator? 'T' rest
  let (hour, minute, rest) ← clock? rest
  let (second, nanosecond, rest) ← seconds? rest
  let time ← TimeOfDay.ofParts? hour minute second nanosecond
  if atEnd rest then pure ⟨date, time⟩ else none

end ObjectQuery
