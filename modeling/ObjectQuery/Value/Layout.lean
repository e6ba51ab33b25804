import ObjectQuery.Calendar.Layout
import ObjectQuery.Number.Layout
import ObjectQuery.Text.Picture
import ObjectQuery.Value.Basic

/-!
# Written values

The plain text of a value, and the diagnostic text that also tells which kind of
value it is.
-/

namespace ObjectQuery
namespace Value

mutual

/-- A value as plain text. -/
def toText : Value → String
  | .null => "null"
  | .boolean value => if value then "true" else "false"
  | .integer value => toString value.toInt
  | .float value => value.toPlain
  | .decimal digits => digits
  | .string text => text
  | .date value => value.toText
  | .time value => value.toText
  | .dateTime value => value.toText
  | .enum name => name
  | .list items => "[" ++ ", ".intercalate (toTexts items) ++ "]"

/-- Values as plain texts. -/
def toTexts : List Value → List String
  | [] => []
  | item :: rest => toText item :: toTexts rest

end

mutual

/-- A value with the name of its kind. -/
def toDiagnostic : Value → String
  | .null => "Null"
  | .boolean value => "Boolean(" ++ (if value then "true" else "false") ++ ")"
  | .integer value => "Integer(" ++ toString value.toInt ++ ")"
  | .float value => "Float(" ++ value.toDiagnostic ++ ")"
  | .decimal digits => "Decimal(" ++ Text.showString digits ++ ")"
  | .string text => "String(" ++ Text.showString text ++ ")"
  | .date value => "Date(" ++ value.toText ++ ")"
  | .time value => "Time(" ++ value.toText ++ ")"
  | .dateTime value => "DateTime(" ++ value.toInterchangeText ++ ")"
  | .enum name => "Enum(" ++ Text.showString name ++ ")"
  | .list items => "List([" ++ ", ".intercalate (toDiagnostics items) ++ "])"

/-- Values with the names of their kinds. -/
def toDiagnostics : List Value → List String
  | [] => []
  | item :: rest => toDiagnostic item :: toDiagnostics rest

end

end Value
end ObjectQuery
