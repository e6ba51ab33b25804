import ObjectQuery.Calendar.Layout
import ObjectQuery.Calendar.Reader
import ObjectQuery.Json.Record
import ObjectQuery.Value.Basic

/-!
# Values in JSON

A value type is a variant. A value is a record of its type and its content: numbers
are JSON numbers, dates and times texts in interchange form, and null has no
content.
-/

namespace ObjectQuery

namespace ValueType

/-- A value type in JSON. -/
def toJson : ValueType → Json
  | .boolean => .string "boolean"
  | .integer => .string "integer"
  | .float => .string "float"
  | .decimal => .string "decimal"
  | .string => .string "string"
  | .date => .string "date"
  | .time => .string "time"
  | .dateTime => .string "date_time"
  | .enum name => .tagged "enum" (.string name)
  | .entity name => .tagged "entity" (.string name)
  | .list element => .tagged "list" element.toJson
  | .any => .string "any"

/-- The value type of a name without content. -/
def named? : String → Option ValueType
  | "boolean" => some .boolean
  | "integer" => some .integer
  | "float" => some .float
  | "decimal" => some .decimal
  | "string" => some .string
  | "date" => some .date
  | "time" => some .time
  | "date_time" => some .dateTime
  | "any" => some .any
  | _ => none

/-- A value type, read within a nesting. -/
def decode : Nat → Json → Option ValueType
  | 0, _ => none
  | nesting + 1, json =>
      match json.unitVariant? with
      | some name => named? name
      | none =>
          match json.variant? with
          | some ("enum", some content) => content.text?.map .enum
          | some ("entity", some content) => content.text?.map .entity
          | some ("list", some content) => (decode nesting content).map .list
          | _ => none

/-- The value type that a document writes. -/
def ofJson? (json : Json) : Option ValueType :=
  decode json.nesting json

end ValueType

/-- A granularity in JSON. -/
def Granularity.toJson : Granularity → Json
  | .date => .string "date"
  | .time => .string "time"
  | .timestamp => .string "timestamp"

namespace Value

/-- A value of a type with its content. -/
def typed (type : String) (content : Json) : Json :=
  .object [("type", .string type), ("value", content)]

mutual

/-- A value in JSON. -/
def toJson : Value → Json
  | .null => .object [("type", .string "null")]
  | .boolean value => typed "boolean" (.bool value)
  | .integer value => typed "integer" (.int value.toInt)
  | .float value => typed "float" (.ofBinary64 value)
  | .decimal digits => typed "decimal" (.string digits)
  | .string text => typed "string" (.string text)
  | .date value => typed "date" (.string value.toText)
  | .time value => typed "time" (.string value.toText)
  | .dateTime value => typed "date_time" (.string value.toInterchangeText)
  | .enum name => typed "enum" (.string name)
  | .list items => typed "list" (.array (toJsons items))

/-- Values in JSON. -/
def toJsons : List Value → List Json
  | [] => []
  | item :: rest => toJson item :: toJsons rest

end

/-- An integer of sixty-four bits. -/
def integerOf? (json : Json) : Option Value :=
  (json.int?.bind Number.int64OfInt?).map .integer

/-- A floating point number; with `special` the names of infinity and NaN are read too. -/
def floatOf? (special : Bool) : Json → Option Value
  | .int value => some (.float (Binary64.ofInt value))
  | .float value => some (.float value)
  | .string name =>
      if special then
        match name with
        | "nan" => some (.float Binary64.nan)
        | "inf" => some (.float (Binary64.infinity false))
        | "-inf" => some (.float (Binary64.infinity true))
        | _ => none
      else
        none
  | _ => none

/-- A value without items, of a type with its content. -/
def plainOf? (special : Bool) (type : String) (content : Json) : Option Value :=
  match type with
  | "boolean" => content.bool?.map .boolean
  | "integer" => integerOf? content
  | "float" => floatOf? special content
  | "decimal" => content.text?.map .decimal
  | "string" => content.text?.map .string
  | "date" => (content.text?.bind Date.ofText?).map .date
  | "time" => (content.text?.bind TimeOfDay.ofText?).map .time
  | "date_time" => (content.text?.bind DateTime.ofText?).map .dateTime
  | "enum" => content.text?.map .enum
  | _ => none

/-- The names of a value's fields. -/
def fieldNames : List String :=
  ["type", "value"]

/-- A value, read within a nesting; `special` allows the names of infinity and NaN. -/
def decode (special : Bool) : Nat → Json → Option Value
  | 0, _ => none
  | nesting + 1, json =>
      match json.record? fieldNames with
      | none => none
      | some fields =>
          match (Json.field? "type" fields).bind Json.unitVariant?, Json.field? "value" fields with
          | some "null", none | some "null", some .null => some .null
          | some "list", some content =>
              match content.items? with
              | some items => (items.mapM (decode special nesting)).map .list
              | none => none
          | some type, some content => plainOf? special type content
          | _, _ => none

/-- The value that a document writes. -/
def ofJson? (json : Json) : Option Value :=
  decode false json.nesting json

/-- The value that a document writes, with names for infinity and NaN. -/
def ofExtendedJson? (json : Json) : Option Value :=
  decode true json.nesting json

end Value
end ObjectQuery
