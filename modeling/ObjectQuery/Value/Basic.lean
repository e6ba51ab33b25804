import ObjectQuery.Calendar.DateTime
import ObjectQuery.Number.Binary64
import ObjectQuery.Number.Reader

/-!
# Values and their types

A value is the content of a constant, of a bound parameter or of a cell of a
result row. A value type is what is known of a value before it is seen; `any`
stands for a type that is not known.
-/

namespace ObjectQuery

/-- What is known of a value before it is seen. -/
inductive ValueType where
  | boolean
  | integer
  | float
  | decimal
  | string
  | date
  | time
  | dateTime
  | enum (name : String)
  | entity (name : String)
  | list (element : ValueType)
  | any
  deriving DecidableEq, Repr, Inhabited

/-- The granularity with which a temporal parameter is bound. -/
inductive Granularity where
  | date
  | time
  | timestamp
  deriving DecidableEq, Repr

/-- A constant, a bound parameter or a cell of a row. -/
inductive Value where
  | null
  | boolean (value : Bool)
  | integer (value : Int64)
  | float (value : Binary64)
  /-- A number of any precision, kept as it is written. -/
  | decimal (digits : String)
  | string (text : String)
  | date (value : Date)
  | time (value : TimeOfDay)
  | dateTime (value : DateTime)
  /-- A constant of an enumeration, by name. -/
  | enum (name : String)
  | list (items : List Value)
  deriving Inhabited

namespace ValueType

/-- The granularity of parameters with this type. -/
def temporalType? : ValueType → Option Granularity
  | .date => some .date
  | .time => some .time
  | .dateTime => some .timestamp
  | _ => none

/-- Types whose values are numbers. -/
def isNumeric : ValueType → Bool
  | .integer | .float | .decimal => true
  | _ => false

/-- Types whose values may be texts. -/
def isTextual : ValueType → Bool
  | .string | .enum _ | .any => true
  | _ => false

/-- The type as messages name it. -/
def label : ValueType → String
  | .boolean => "boolean"
  | .integer => "int"
  | .float => "float"
  | .decimal => "decimal"
  | .string => "string"
  | .date => "date"
  | .time => "time"
  | .dateTime => "datetime"
  | .enum name => "enum " ++ name
  | .entity name => "entity " ++ name
  | .list element => "list<" ++ element.label ++ ">"
  | .any => "any"

end ValueType

namespace Value

/-- The type that shows in a value itself; a list takes that of its first item. -/
def valueType : Value → ValueType
  | .null => .any
  | .boolean _ => .boolean
  | .integer _ => .integer
  | .float _ => .float
  | .decimal _ => .decimal
  | .string _ => .string
  | .date _ => .date
  | .time _ => .time
  | .dateTime _ => .dateTime
  | .enum _ => .enum ""
  | .list [] => .list .any
  | .list (first :: _) => .list first.valueType

/-- The granularity that shows in a value itself. -/
def temporalType? (value : Value) : Option Granularity :=
  value.valueType.temporalType?

/-- Whether the value is null. -/
def isNull : Value → Bool
  | .null => true
  | _ => false

/-- Whether the value is a list. -/
def isList : Value → Bool
  | .list _ => true
  | _ => false

/-- The text of a string, an enumeration constant or a decimal. -/
def text? : Value → Option String
  | .string text => some text
  | .enum name => some name
  | .decimal digits => some digits
  | _ => none

/-- The truth value of a boolean. -/
def bool? : Value → Option Bool
  | .boolean value => some value
  | _ => none

/-- The integer that a number equals, if it fits sixty-four bits. -/
def int64? : Value → Option Int64
  | .integer value => some value
  | .float value => value.toInt?.bind Number.int64OfInt?
  | _ => none

/-- The nearest floating point number of a number, as far as a decimal writes one. -/
def binary64? : Value → Option Binary64
  | .integer value => some (Binary64.ofInt value.toInt)
  | .float value => some value
  | .decimal digits => Number.binary64? digits
  | _ => none

end Value
end ObjectQuery
