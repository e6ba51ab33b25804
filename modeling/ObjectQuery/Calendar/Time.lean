/-!
# Times of day

A time has hours, minutes, seconds and the nanoseconds since its second began. A
leap second makes a second last twice as long, so that the count goes on past the
first thousand million. It may follow any second. A text shows it as the second
after, which is the sixtieth where it follows the fifty-ninth.
-/

namespace ObjectQuery

/-- A time of day. -/
@[ext]
structure TimeOfDay where
  hour : Nat
  minute : Nat
  second : Nat
  nanosecond : Nat
  hourInRange : hour < 24
  minuteInRange : minute < 60
  secondInRange : second < 60
  nanosecondInRange : nanosecond < 2000000000
  deriving DecidableEq

namespace TimeOfDay

/-- The second that a text shows. -/
def shownSecond (time : TimeOfDay) : Nat :=
  time.second + time.nanosecond / 1000000000

/-- The nanoseconds of the second that a text shows. -/
def shownNanosecond (time : TimeOfDay) : Nat :=
  time.nanosecond % 1000000000

/-- The time that a text shows with the given parts, if there is one. The sixtieth second can
only be the leap second that follows the fifty-ninth. -/
def ofParts? (hour minute second nanosecond : Nat) : Option TimeOfDay :=
  if inRange : hour < 24 ∧ minute < 60 ∧ second ≤ 60 ∧ nanosecond < 1000000000 then
    if leap : second = 60 then
      some ⟨hour, minute, 59, 1000000000 + nanosecond, inRange.1, inRange.2.1, by decide,
        by omega⟩
    else
      some ⟨hour, minute, second, nanosecond, inRange.1, inRange.2.1, by omega, by omega⟩
  else
    none

/-- The start of a day. -/
def midnight : TimeOfDay :=
  ⟨0, 0, 0, 0, by decide, by decide, by decide, by decide⟩

instance : Inhabited TimeOfDay :=
  ⟨midnight⟩

/-- Earlier times come first. -/
def order (left right : TimeOfDay) : Ordering :=
  (compare left.hour right.hour).then
    ((compare left.minute right.minute).then
      ((compare left.second right.second).then (compare left.nanosecond right.nanosecond)))

theorem shownSecond_le (time : TimeOfDay) : time.shownSecond ≤ 60 := by
  have second := time.secondInRange
  have nanosecond := time.nanosecondInRange
  unfold shownSecond
  omega

theorem shownNanosecond_lt (time : TimeOfDay) : time.shownNanosecond < 1000000000 :=
  Nat.mod_lt _ (by decide)

end TimeOfDay
end ObjectQuery
