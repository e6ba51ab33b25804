import ObjectQuery.Calendar.DateTime
import ObjectQuery.Number.Reader

/-!
# Written dates and times

Numbers are padded with zeros to their usual width. A year outside `0` to `9999`
has a sign and at least four digits. The fraction of a second takes three, six or
nine digits, as many as it needs, and none when it is zero. A leap second stands
as the second after the one that it follows.
-/

namespace ObjectQuery
namespace Calendar

/-- Decimal digits of a number, with leading zeros up to a width. -/
def padded (width number : Nat) : String :=
  let digits := Nat.toDigits 10 number
  String.ofList (List.replicate (width - digits.length) '0' ++ digits)

theorem isDigit_of_mem_padded (width number : Nat) :
    ∀ character ∈ (padded width number).toList, character.isDigit = true := by
  intro character member
  rw [padded, String.toList_ofList, List.mem_append] at member
  rcases member with zero | ofNumber
  · rw [List.eq_of_mem_replicate zero]
    decide
  · exact Number.isDigit_of_mem_toDigits ofNumber

/-- The year of a date. -/
def yearText (year : Int) : String :=
  if 0 ≤ year ∧ year ≤ 9999 then
    padded 4 year.toNat
  else
    (if year < 0 then "-" else "+") ++ padded 4 year.natAbs

/-- The point and digits of a fraction of a second. -/
def fractionText (nanosecond : Nat) : String :=
  if nanosecond = 0 then
    ""
  else if nanosecond % 1000000 = 0 then
    "." ++ padded 3 (nanosecond / 1000000)
  else if nanosecond % 1000 = 0 then
    "." ++ padded 6 (nanosecond / 1000)
  else
    "." ++ padded 9 nanosecond

end Calendar

open Calendar

/-- Year, month and day. -/
def Date.toText (date : Date) : String :=
  yearText date.year ++ "-" ++ padded 2 date.month ++ "-" ++ padded 2 date.day

/-- Hour, minute and second. -/
def TimeOfDay.toClockText (time : TimeOfDay) : String :=
  padded 2 time.hour ++ ":" ++ padded 2 time.minute ++ ":" ++ padded 2 time.shownSecond

/-- Hour, minute, second and fraction. -/
def TimeOfDay.toText (time : TimeOfDay) : String :=
  time.toClockText ++ fractionText time.shownNanosecond

/-- Date and time with a given separator. -/
def DateTime.toTextWith (separator : String) (moment : DateTime) : String :=
  moment.date.toText ++ separator ++ moment.time.toText

/-- Date and time as people read them. -/
def DateTime.toText (moment : DateTime) : String :=
  moment.toTextWith " "

/-- Date and time in the interchange form. -/
def DateTime.toInterchangeText (moment : DateTime) : String :=
  moment.toTextWith "T"

end ObjectQuery
