import ObjectQuery.Codec.Operation
import ObjectQuery.Codec.Row
import ObjectQuery.Compiler.Basic

/-!
# Statements and their parameters in JSON

A statement is written without its converter, which has no form of its own.
-/

namespace ObjectQuery

/-- A parameter in JSON. -/
def Parameter.toJson (parameter : Parameter) : Json :=
  .object
    [("value_type", parameter.valueType.toJson),
      ("value", parameter.value.toJson),
      ("temporal", (parameter.temporal.map Granularity.toJson).getD .null)]

/-- Parameters in JSON, in the order of their allocation. -/
def ParameterTable.toJson (table : ParameterTable) : Json :=
  .tagged "entries"
    (.array (table.entries.map fun (name, parameter) =>
      .array [.string name, parameter.toJson]))

/-- A statement in JSON. -/
def Statement.toJson (statement : Statement) : Json :=
  .object
    [("kind", statement.kind.toJson),
      ("text", .string statement.text),
      ("parameters", statement.parameters.toJson),
      ("selections", .array (statement.selections.map Selection.toJson)),
      ("shape", (statement.shape.map RowShape.toJson).getD .null),
      ("limit", .ofWord? statement.limit),
      ("offset", .ofWord? statement.offset),
      ("lock_mode", statement.lockMode.toJson),
      ("hints", statement.hints.toJson)]

end ObjectQuery
