import ObjectQuery.Number.Layout
import ObjectQuery.Value.Basic

/-!
# Coercion of cells

A cell of a row is taken to the type its column was resolved with. Null fits every
type, and unknown, entity and list types take every value as it is. Numbers change
their form where the other type can hold them, texts and enumeration constants
change into each other, and dates, times and date-times give and take a midnight.
-/

namespace ObjectQuery
namespace Value

/-- A value taken to a type, where that is possible. -/
def coerce? (expected : ValueType) (value : Value) : Option Value :=
  match value, expected with
  | .null, _ => some .null
  | found, .any => some found
  | found, .entity _ => some found
  | found, .list _ => some found
  | .boolean truth, .boolean => some (.boolean truth)
  | .integer number, .boolean =>
      if number = 0 then some (.boolean false)
      else if number = 1 then some (.boolean true)
      else none
  | .decimal digits, .integer => (Number.int64? digits).map .integer
  | .integer number, .integer => some (.integer number)
  | .float number, .integer => (Value.float number).int64?.map .integer
  | .integer number, .float => (Value.integer number).binary64?.map .float
  | .float number, .float => some (.float number)
  | .decimal digits, .float => (Number.binary64? digits).map .float
  | .decimal digits, .decimal => some (.decimal digits)
  | .integer number, .decimal => some (.decimal (toString number.toInt))
  | .float number, .decimal => some (.decimal number.toPlain)
  | .string text, .string => some (.string text)
  | .enum name, .string => some (.string name)
  | .string text, .enum _ => some (.enum text)
  | .enum name, .enum _ => some (.enum name)
  | .date day, .date => some (.date day)
  | .dateTime moment, .date => some (.date moment.date)
  | .time clock, .time => some (.time clock)
  | .dateTime moment, .time => some (.time moment.time)
  | .dateTime moment, .dateTime => some (.dateTime moment)
  | .date day, .dateTime => some (.dateTime (DateTime.startOf day))
  | _, _ => none

@[simp]
theorem coerce?_null (expected : ValueType) : coerce? expected .null = some .null := by
  cases expected <;> rfl

end Value
end ObjectQuery
