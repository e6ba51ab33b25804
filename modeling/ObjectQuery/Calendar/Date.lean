/-!
# Calendar dates

Dates of the Gregorian calendar, extended to all years of the supported range.
A date is written as year, month and day; a year outside four digits carries its
sign.
-/

namespace ObjectQuery

/-- Whether a year has a twenty-ninth of February. -/
def isLeapYear (year : Int) : Bool :=
  year % 4 == 0 && (year % 100 != 0 || year % 400 == 0)

/-- The number of days of a month; months outside one to twelve have none. -/
def daysInMonth (year : Int) (month : Nat) : Nat :=
  match month with
  | 1 | 3 | 5 | 7 | 8 | 10 | 12 => 31
  | 4 | 6 | 9 | 11 => 30
  | 2 => if isLeapYear year then 29 else 28
  | _ => 0

/-- A day of the calendar. -/
structure Date where
  year : Int
  month : Nat
  day : Nat
  yearInRange : -262143 ≤ year ∧ year ≤ 262142
  monthInRange : 1 ≤ month ∧ month ≤ 12
  dayInRange : 1 ≤ day ∧ day ≤ daysInMonth year month
  deriving DecidableEq

namespace Date

/-- The date with the given parts, if there is one. -/
def ofParts? (year : Int) (month day : Nat) : Option Date :=
  if yearInRange : -262143 ≤ year ∧ year ≤ 262142 then
    if monthInRange : 1 ≤ month ∧ month ≤ 12 then
      if dayInRange : 1 ≤ day ∧ day ≤ daysInMonth year month then
        some ⟨year, month, day, yearInRange, monthInRange, dayInRange⟩
      else
        none
    else
      none
  else
    none

/-- The first day of 1970. -/
def epoch : Date :=
  ⟨1970, 1, 1, by decide, by decide, by decide⟩

instance : Inhabited Date :=
  ⟨epoch⟩

/-- Earlier dates come first. -/
def order (left right : Date) : Ordering :=
  (compare left.year right.year).then
    ((compare left.month right.month).then (compare left.day right.day))

theorem ofParts?_eq_some (date : Date) :
    ofParts? date.year date.month date.day = some date := by
  simp [ofParts?, date.yearInRange, date.monthInRange, date.dayInRange]

theorem daysInMonth_le (year : Int) (month : Nat) : daysInMonth year month ≤ 31 := by
  unfold daysInMonth
  split <;> first | omega | (split <;> omega)

theorem day_le (date : Date) : date.day ≤ 31 :=
  Nat.le_trans date.dayInRange.2 (daysInMonth_le date.year date.month)

end Date
end ObjectQuery
