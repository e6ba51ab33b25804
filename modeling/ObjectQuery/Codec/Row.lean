import ObjectQuery.Codec.Value
import ObjectQuery.Row.Plan

/-!
# Rows, results and plans in JSON

Rows may hold infinities and NaN by name when they are read; when they are written
these become null. A converter is a record of its kind and what it reads by; a
host's own reading is only known by its kind.
-/

namespace ObjectQuery

/-- A named value in JSON. -/
def Value.cellToJson (cell : String × Value) : Json :=
  .array [.string cell.1, cell.2.toJson]

/-- The named value that a document writes. -/
def Value.cellOf? : Json → Option (String × Value)
  | .array [.string name, content] => (Value.ofExtendedJson? content).map fun value => (name, value)
  | _ => none

namespace Row

/-- A row in JSON. -/
def toJson : Row → Json
  | .scalar value => .tagged "Scalar" value.toJson
  | .tuple columns => .tagged "Tuple" (.array (columns.map Value.cellToJson))
  | .array cells => .tagged "Array" (.array (cells.map Value.toJson))

/-- The row that a document writes. -/
def ofJson? (json : Json) : Option Row :=
  match json.variant? with
  | some ("Scalar", some content) => (Value.ofExtendedJson? content).map .scalar
  | some ("Tuple", some content) => (Json.list? Value.cellOf? content).map .tuple
  | some ("Array", some content) => (Json.list? Value.ofExtendedJson? content).map .array
  | _ => none

end Row

/-- A result in JSON. -/
def RowContent.toJson : RowContent → Json
  | .value found => .tagged "Value" found.toJson
  | .record fields => .tagged "Record" (.array (fields.map Value.cellToJson))
  | .entity name row =>
      .tagged "Entity" (.object [("entity", .string name), ("row", row.toJson)])

/-- The shape of rows in JSON. -/
def RowShape.toJson : RowShape → Json
  | .scalar valueType => .tagged "scalar" valueType.toJson
  | .tuple => .string "tuple"
  | .array => .string "array"

/-- An entry of a select list in JSON. -/
def Selection.toJson (selection : Selection) : Json :=
  .object [("fragment", .string selection.fragment), ("alias", .ofText? selection.aliasName)]

namespace RowColumn

/-- A column in JSON. -/
def toJson (column : RowColumn) : Json :=
  .object
    [("name", .string column.name),
      ("alias", .ofText? column.aliasName),
      ("position", .ofNat column.position),
      ("value_type", column.valueType.toJson)]

/-- The column that a document describes. -/
def ofJson? (json : Json) : Option RowColumn := do
  let fields ← json.fields?
  let name ← Json.required? Json.text? "name" fields
  let aliasName ← Json.optional? Json.text? "alias" fields
  let position ← Json.required? Json.word? "position" fields
  let valueType ← Json.required? ValueType.ofJson? "value_type" fields
  return ⟨name, aliasName, position, valueType⟩

end RowColumn

namespace RowReader

/-- A converter in JSON. -/
def toJson : RowReader → Json
  | .scalar valueType =>
      .object [("kind", .string "scalar"), ("value_type", valueType.toJson)]
  | .constant value => .object [("kind", .string "constant"), ("value", value.toJson)]
  | .entity name => .object [("kind", .string "entity"), ("entity", .string name)]
  | .record columns =>
      .object [("kind", .string "record"), ("columns", .array (columns.map RowColumn.toJson))]
  | .custom _ => .tagged "kind" (.string "custom")

/-- The converter that a document describes; a custom one counts the cells of arrays. -/
def ofJson? (json : Json) : Option RowReader := do
  let fields ← json.fields?
  match Json.required? Json.text? "kind" fields with
  | some "scalar" => (Json.required? ValueType.ofJson? "value_type" fields).map .scalar
  | some "constant" => (Json.required? Value.ofExtendedJson? "value" fields).map .constant
  | some "entity" => (Json.required? Json.text? "entity" fields).map .entity
  | some "record" =>
      (Json.required? (Json.list? RowColumn.ofJson?) "columns" fields).map .record
  | some "custom" => some countingCells
  | _ => none

end RowReader

/-- A plan in JSON: its select list, also as text, its shape and its converter. -/
def ProjectionPlan.toJson (plan : ProjectionPlan) : Json :=
  .object
    [("select_list", .string plan.selectList),
      ("selections", .array (plan.selections.map Selection.toJson)),
      ("shape", plan.shape.toJson),
      ("converter", plan.converter.toJson),
      ("valid",
        match plan.fault? with
        | none => .tagged "Ok" .null
        | some fault => .tagged "Err" (.string fault))]

end ObjectQuery
