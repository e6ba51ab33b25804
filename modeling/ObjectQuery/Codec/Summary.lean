import ObjectQuery.Codec.Operation
import ObjectQuery.Expression.Standard
import ObjectQuery.Value.Layout

/-!
# Summaries of nodes

What can be said of a node without a context: its type, its name, and what it is made
of. A summary is a record that differs from node to node.
-/

namespace ObjectQuery

/-- Content in JSON, or null. -/
def Json.orNull {content : Type} (encode : content → Json) : Option content → Json
  | some found => encode found
  | none => .null

/-- The summary of a value type. -/
def ValueType.summary (type : ValueType) : Json :=
  .object
    [("display", .string type.label),
      ("temporal", .orNull Granularity.toJson type.temporalType?),
      ("numeric", .bool type.isNumeric),
      ("textual", .bool type.isTextual)]

/-- The summary of a value. -/
def Value.summary (value : Value) : Json :=
  .object
    [("display", .string value.toText),
      ("value_type", value.valueType.toJson),
      ("temporal", .orNull Granularity.toJson value.temporalType?),
      ("null", .bool value.isNull),
      ("list", .bool value.isList),
      ("as_str", .ofText? value.text?),
      ("as_i64", .orNull (fun number => .int number.toInt) value.int64?),
      ("as_f64", .ofText? (value.binary64?.map Binary64.toPlain)),
      ("as_bool", .orNull .bool value.bool?)]

/-- The summary of a path. -/
def Path.summary (path : Path) : Json :=
  .object [("full_name", .string path.fullName), ("qualifier", .ofText? path.qualifier?)]

/-- The summary of a node. -/
def Expression.summary (expression : Expression) : Json :=
  .object
    [("kind", .string expression.kind.name),
      ("operand", .bool expression.isOperand),
      ("value_type", expression.valueType.toJson),
      ("constant", .orNull Value.toJson expression.constant?)]

/-- The summary of a function call. -/
def FunctionCall.summary (call : FunctionCall) : Json :=
  .object
    [("result_type", call.resultType.toJson),
      ("name", .string call.kind.name),
      ("arity", .ofNat call.kind.arity),
      ("aggregate", .bool call.kind.isAggregate)]

/-- The operator of a comparison. -/
def Filter.operator? : Filter → Option CompareOperator
  | .compare _ operator _ => some operator
  | _ => none

/-- The summary of a filter. -/
def Filter.summary (filter : Filter) : Json :=
  .object
    [("variant", .string filter.formName),
      ("empty_junction", .bool filter.isVacuous),
      ("symbol", .ofText? (filter.operator?.map CompareOperator.symbol))]

/-- The summary of a target. -/
def Target.summary (target : Target) : Json :=
  .object
    [("count", .ofNat target.targetCount),
      ("joins", .ofTexts (target.joins.map fun join => join.joinType.keyword))]

/-- The summary of the keys of an order. -/
def SortKey.summary (keys : List SortKey) : Json :=
  .tagged "keywords" (.ofTexts (keys.map fun key => key.direction.keyword))

/-- The summary of a projection. -/
def Projection.summary (projection : Projection) : Json :=
  .object
    [("value_type", projection.valueType.toJson), ("multi", .bool projection.hasSeveralColumns)]

/-- The summary of an operation. -/
def Operation.summary (operation : Operation) : Json :=
  .object
    [("write", .bool operation.kind.isWrite),
      ("targets", .ofNat operation.target.targetCount)]

end ObjectQuery
