import ObjectQuery.Codec.Configuration
import ObjectQuery.Codec.Catalog
import ObjectQuery.Codec.Operation

/-!
# Nodes from steps of construction

A node may be given by the steps that build it: what it starts from, and then one
change after the other, each an array of its name and arguments.
-/

namespace ObjectQuery

/-- The changes of a construction, one after the other. -/
def Json.construct? {built : Type} (change : built → Json → Option built) (start : built)
    (changes : List Json) : Option built :=
  changes.foldlM change start

namespace Path

/-- The path that a first step starts. -/
def start? : Json → Option Path
  | .array [.string "new", .string name, valueType] =>
      (ValueType.ofJson? valueType).map (of name)
  | .array [.string "untyped", .string name] => some (untyped name)
  | _ => none

mutual

/-- The path that steps build, read within a nesting. -/
def construct? : Nat → List Json → Option Path
  | nesting + 1, start :: changes =>
      (start? start).bind fun path => changes.foldlM (change? nesting) path
  | _, _ => none

/-- A path after one change, read within a nesting. -/
def change? : Nat → Path → Json → Option Path
  | nesting + 1, path, .array [.string "parent", .array steps] =>
      (construct? nesting steps).map path.within
  | _, path, .array [.string "of_target", .string target] => some (path.ofTarget target)
  | _, path, .array [.string "alias", .string aliasName] => some (path.withAlias aliasName)
  | _, _, _ => none

end

/-- The path that steps build. -/
def ofSteps? (steps : List Json) : Option Path :=
  construct? (2 * Json.nestingOfItems steps + 2) steps

end Path

namespace Target

/-- The condition of a join, which may be missing. -/
def joinCondition? : Json → Option (Option Filter)
  | .null => some none
  | json => (Filter.ofJson? json).map some

mutual

/-- The target that steps build, read within a nesting. -/
def construct? : Nat → List Json → Option Target
  | nesting + 1, .string name :: changes => changes.foldlM (change? nesting) (named name)
  | _, _ => none

/-- A target after one change, read within a nesting. -/
def change? : Nat → Target → Json → Option Target
  | _, target, .array [.string "entity", .string entity] => some (target.withEntity entity)
  | _, target, .array [.string "alias", .string aliasName] => some (target.withAlias aliasName)
  | nesting + 1, target, .array [.string "join", joinType, .array joined, condition] => do
      let joinType ← JoinType.ofJson? joinType
      return target.join joinType (← construct? nesting joined) (← joinCondition? condition)
  | nesting + 1, target, .array [joinType, .array joined, condition] => do
      let joinType ← JoinType.ofJson? joinType
      return target.join joinType (← construct? nesting joined) (← Filter.ofJson? condition)
  | _, _, _ => none

end

/-- The target that steps build. -/
def ofSteps? (steps : List Json) : Option Target :=
  construct? (2 * Json.nestingOfItems steps + 2) steps

end Target

namespace Filter

/-- The operator with a short name. -/
def comparison? : String → Option CompareOperator
  | "eq" => some .equal
  | "ne" => some .notEqual
  | "gt" => some (.greater false)
  | "gte" => some (.greater true)
  | "lt" => some (.less false)
  | "lte" => some (.less true)
  | _ => none

/-- The filter that a named constructor builds from its arguments. -/
def construct? : List Json → Option Filter
  | [.string "is_null", operand] => (Expression.ofJson? operand).map .isNull
  | [.string "is_not_null", operand] => (Expression.ofJson? operand).map .isNotNull
  | [.string "between", operand, lower, upper] => do
      return .between (← Expression.ofJson? operand) (← Expression.ofJson? lower)
        (← Expression.ofJson? upper)
  | [.string "in_list", left, list] => do
      return inValues (← Expression.ofJson? left) (← Value.ofJson? list)
  | [.string "not_in", left, list] => do
      return notInValues (← Expression.ofJson? left) (← Value.ofJson? list)
  | [.string "in_query", left, query] => do
      return inQuery (← Expression.ofJson? left) (← SubQuery.ofJson? query)
  | [.string "and", conditions] => (Json.list? Filter.ofJson? conditions).map .and
  | [.string "or", conditions] => (Json.list? Filter.ofJson? conditions).map .or
  | [.string "not", condition] => (Filter.ofJson? condition).map .not
  | [.string "exists", query] => (SubQuery.ofJson? query).map .hasRows
  | [.string "not_exists", query] => (SubQuery.ofJson? query).map .hasNoRows
  | [.string "ignore_case", condition] => (Filter.ofJson? condition).map ignoringCase
  | [.string name, left, right] => do
      let left ← Expression.ofJson? left
      match comparison? name with
      | some operator => return .compare left operator (← Expression.ofJson? right)
      | none => return matching (← MatchMode.ofJson? (.string name)) left (← right.text?)
  | _ => none

end Filter

namespace FunctionCall

/-- The call of a function with a name; a name may end in a wish for distinct values. -/
def construct? : List Json → Option FunctionCall
  | .string name :: rest =>
      let argument := rest.head?.bind Expression.ofJson?
      match name with
      | "count_distinct" => argument.map fun found => (unary .count found).withDistinct
      | "sum_distinct" => argument.map fun found => (unary .sum found).withDistinct
      | _ => do
          let kind ← FunctionKind.ofJson? (.string name)
          if kind.arity = 0 then some (niladic kind) else argument.map (unary kind)
  | _ => none

end FunctionCall

namespace Operation

/-- An operation after one change. -/
def change? (operation : Operation) : Json → Option Operation
  | .array [.string "filter", content] => do
      return { operation with filter := some (← Filter.ofJson? content) }
  | .array [.string "aggregation", content] => do
      return { operation with aggregation := some (← Aggregation.ofJson? content) }
  | .array [.string "sort", content] => do
      return { operation with sort := some (← SortKey.clauseOfJson? content) }
  | .array [.string "projection", content] => do
      return { operation with projection := some (← Projection.ofJson? content) }
  | .array [.string "limit", content] => do
      return { operation with limit := some (UInt64.ofNat (← content.word?)) }
  | .array [.string "offset", content] => do
      return { operation with offset := some (UInt64.ofNat (← content.word?)) }
  | .array [.string "lock", content] => do
      return { operation with lockMode := ← LockMode.ofJson? content }
  | .array (.string "distinct" :: _) => some { operation with distinct := true }
  | .array [.string "set", path, value] => do
      return operation.set (← Path.ofJson? path) (← Expression.ofJson? value)
  | .array [.string "hint", .string name, .string text] => some (operation.withHint name text)
  | _ => none

/-- The operation that steps build, from a kind and a target on. -/
def construct? : List Json → Option Operation
  | .array [kind, target] :: changes => do
      let start := of (← OperationKind.ofJson? kind) (← Target.ofJson? target)
      Json.construct? change? start changes
  | _ => none

end Operation

/-- The sort key of a direction and an expression. -/
def SortKey.construct? : Json → Option SortKey
  | .array [direction, expression] => do
      return .mk (← Expression.ofJson? expression) (← SortDirection.ofJson? direction)
  | _ => none

namespace SubQuery

/-- A sub-query after one change. -/
def change? (query : SubQuery) : Json → Option SubQuery
  | .array [.string "filter", content] => (Filter.ofJson? content).map query.withFilter
  | .array [.string "corr", .string name] => some (query.correlatedWith name)
  | _ => none

/-- The sub-query that steps build, from a target and a projection on. -/
def construct? : List Json → Option SubQuery
  | target :: projection :: changes => do
      let start := of (← Target.ofJson? target) (← Projection.ofJson? projection)
      Json.construct? change? start changes
  | _ => none

end SubQuery

/-- The grouping by keys, with the condition that may follow them. -/
def Aggregation.construct? : List Json → Option Aggregation
  | [keys] | [keys, .null] => (Json.list? Expression.ofJson? keys).map Aggregation.by
  | [keys, having] => do
      let grouping := Aggregation.by (← Json.list? Expression.ofJson? keys)
      return grouping.withHaving (← Filter.ofJson? having)
  | _ => none

namespace Entity

/-- An entity after one attribute more. -/
def change? (entity : Entity) : Json → Option Entity
  | .array [.string name, valueType] =>
      (ValueType.ofJson? valueType).map (entity.withAttribute name)
  | _ => none

/-- The entity that names and further attributes build. -/
def construct? (start added : List Json) : Option Entity :=
  match start with
  | [.string "named", .string name] => Json.construct? change? (named name) added
  | [.string "new", .string name, .string entityName] =>
      Json.construct? change? ⟨name, entityName, []⟩ added
  | _ => none

end Entity

namespace Configuration

/-- A configuration after one setting. -/
def change? (config : Configuration) : Json → Option Configuration
  | .array [.string "platform", value] => do
      return { config with platform := ← Platform.ofJson? value }
  | .array [.string "alias_mode", value] => do
      return { config with aliasMode := ← AliasPolicy.ofJson? value }
  | .array [.string "parameter_prefix", value] => do
      return { config with parameterPrefix := ← value.text? }
  | .array [.string "parameter_marker", value] => do
      return { config with parameterMarker := ← value.character? }
  | .array [.string "escape_char", value] => do
      return { config with escapeCharacter := ← value.character? }
  | .array [.string "log_statements", value] => do
      return { config with logStatements := ← value.bool? }
  | .array [.string "max_depth", value] => do
      return { config with maxDepth := ← value.word? }
  | .array [.string "catalog_scope", value] => do
      return { config with catalogScope := ← value.text? }
  | _ => none

/-- The configuration that settings build, from a platform on. -/
def construct? : List Json → Option Configuration
  | platform :: changes => do
      Json.construct? change? (standard (← Platform.ofJson? platform)) changes
  | [] => none

end Configuration

namespace Value

/-- The integer of a document, if it lies within bounds. -/
def integerWithin? (low high : Int) (json : Json) : Option Value :=
  match json.int? with
  | some number => if low ≤ number ∧ number ≤ high then integerOf? json else none
  | none => none

/-- The value that a document gives as content of a host's type. -/
def construct? : List Json → Option Value
  | [.string "bool", content] => plainOf? false "boolean" content
  | [.string "i32", content] => integerWithin? Int32.minValue.toInt Int32.maxValue.toInt content
  | [.string "i64", content] => integerOf? content
  | [.string "f64", content] => floatOf? true content
  | [.string "strings", content] =>
      (Json.list? Json.text? content).map fun texts => .list (texts.map .string)
  | [.string "optional", .null] => some .null
  | [.string "optional", content] => integerOf? content
  | [.string type, content] =>
      if ["string", "date", "time", "date_time"].contains type then
        plainOf? false type content
      else
        none
  | _ => none

end Value
end ObjectQuery
