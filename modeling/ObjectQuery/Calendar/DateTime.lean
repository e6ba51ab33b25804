import ObjectQuery.Calendar.Date
import ObjectQuery.Calendar.Time

/-!
# Points in time

A date together with a time of day, without a time zone.
-/

namespace ObjectQuery

/-- A time of day on a date. -/
structure DateTime where
  date : Date
  time : TimeOfDay
  deriving DecidableEq, Inhabited

namespace DateTime

/-- Earlier points come first. -/
def order (left right : DateTime) : Ordering :=
  (left.date.order right.date).then (left.time.order right.time)

/-- The first moment of a date. -/
def startOf (date : Date) : DateTime :=
  ⟨date, TimeOfDay.midnight⟩

end DateTime
end ObjectQuery
