import ObjectQuery.Codec.Value
import ObjectQuery.Codec.Words

/-!
# Reading nodes from JSON

The inverse of writing. A record may be given as an array of its fields, except for
the content of a filter's or a projection's variant, which is an object. A document
that describes no node reads as nothing. Reading goes no deeper than the document is
nested.
-/

namespace ObjectQuery
namespace NodeReader

/-- The names of a path's fields. -/
def pathFields : List String :=
  ["name", "value_type", "parent", "target", "alias"]

/-- A path, read within a nesting. -/
def path : Nat → Json → Option Path
  | 0, _ => none
  | nesting + 1, json => do
      let fields ← json.record? pathFields
      let name ← Json.required? Json.text? "name" fields
      let valueType ← Json.required? ValueType.ofJson? "value_type" fields
      let parent ← Json.optional? (path nesting) "parent" fields
      let target ← Json.optional? Json.text? "target" fields
      let aliasName ← Json.optional? Json.text? "alias" fields
      return .mk name valueType parent target aliasName

/-- The names of a function call's fields. -/
def functionFields : List String :=
  ["kind", "args", "distinct"]

/-- The names of a target's fields. -/
def targetFields : List String :=
  ["name", "entity", "alias", "joins"]

/-- The names of a join's fields. -/
def joinFields : List String :=
  ["join_type", "target", "on"]

/-- The names of a sort key's fields. -/
def sortKeyFields : List String :=
  ["expression", "direction"]

/-- The names of a grouping's fields. -/
def aggregationFields : List String :=
  ["group_by", "having"]

/-- The names of a property's fields. -/
def itemFields : List String :=
  ["name", "expression"]

/-- The names of a sub-query's fields. -/
def subQueryFields : List String :=
  ["target", "filter", "projection", "correlations"]

mutual

/-- A node, read within a nesting. -/
def expression : Nat → Json → Option Expression
  | 0, _ => none
  | nesting + 1, json =>
      match json.variant? with
      | some ("path", some content) => (path nesting content).map .path
      | some ("constant", some content) => (Value.ofJson? content).map .constant
      | some ("function", some content) => (function nesting content).map .function
      | some ("sub_query", some content) => (subQuery nesting content).map .subQuery
      | some ("filter", some content) => (filter nesting content).map .filter
      | some ("sort", some content) => (sort nesting content).map .sort
      | some ("aggregation", some content) => (aggregation nesting content).map .aggregation
      | some ("projection", some content) => (projection nesting content).map .projection
      | some ("target", some content) => (target nesting content).map .target
      | _ => none

/-- A function call, read within a nesting. -/
def function : Nat → Json → Option FunctionCall
  | 0, _ => none
  | nesting + 1, json => do
      let fields ← json.record? functionFields
      let kind ← Json.required? FunctionKind.ofJson? "kind" fields
      let arguments ← Json.required? (Json.list? (expression nesting)) "args" fields
      let distinct ← Json.required? Json.bool? "distinct" fields
      return .mk kind arguments distinct

/-- A filter, read within a nesting. -/
def filter : Nat → Json → Option Filter
  | 0, _ => none
  | nesting + 1, json =>
      match json.variant? with
      | some ("is_null", some content) => (expression nesting content).map .isNull
      | some ("is_not_null", some content) => (expression nesting content).map .isNotNull
      | some ("compare", some content) => do
          let fields ← content.fields?
          let left ← Json.required? (expression nesting) "left" fields
          let operator ← Json.required? CompareOperator.ofJson? "op" fields
          let right ← Json.required? (expression nesting) "right" fields
          return .compare left operator right
      | some ("between", some content) => do
          let fields ← content.fields?
          let operand ← Json.required? (expression nesting) "expr" fields
          let lower ← Json.required? (expression nesting) "from" fields
          let upper ← Json.required? (expression nesting) "to" fields
          return .between operand lower upper
      | some ("in", some content) => do
          let fields ← content.fields?
          let left ← Json.required? (expression nesting) "left" fields
          let right ← Json.required? (expression nesting) "right" fields
          return .isIn left right
      | some ("not_in", some content) => do
          let fields ← content.fields?
          let left ← Json.required? (expression nesting) "left" fields
          let right ← Json.required? (expression nesting) "right" fields
          return .isNotIn left right
      | some ("string_match", some content) => do
          let fields ← content.fields?
          let left ← Json.required? (expression nesting) "left" fields
          let value ← Json.required? (expression nesting) "value" fields
          let mode ← Json.required? MatchMode.ofJson? "mode" fields
          let ignoreCase ← Json.required? Json.bool? "ignore_case" fields
          return .stringMatch left value mode ignoreCase
      | some ("and", some content) => (Json.list? (filter nesting) content).map .and
      | some ("or", some content) => (Json.list? (filter nesting) content).map .or
      | some ("not", some content) => (filter nesting content).map .not
      | some ("exists", some content) => (subQuery nesting content).map .hasRows
      | some ("not_exists", some content) => (subQuery nesting content).map .hasNoRows
      | _ => none

/-- A target, read within a nesting. -/
def target : Nat → Json → Option Target
  | 0, _ => none
  | nesting + 1, json => do
      let fields ← json.record? targetFields
      let name ← Json.required? Json.text? "name" fields
      let entity ← Json.optional? Json.text? "entity" fields
      let aliasName ← Json.optional? Json.text? "alias" fields
      let joins ← Json.required? (Json.list? (join nesting)) "joins" fields
      return .mk name entity aliasName joins

/-- A join, read within a nesting. -/
def join : Nat → Json → Option Join
  | 0, _ => none
  | nesting + 1, json => do
      let fields ← json.record? joinFields
      let joinType ← Json.required? JoinType.ofJson? "join_type" fields
      let target ← Json.required? (target nesting) "target" fields
      let condition ← Json.optional? (filter nesting) "on" fields
      return .mk joinType target condition

/-- The keys of an order, read within a nesting. -/
def sort : Nat → Json → Option (List SortKey)
  | 0, _ => none
  | nesting + 1, json => do
      let fields ← json.record? ["items"]
      Json.required? (Json.list? (sortKey nesting)) "items" fields

/-- A sort key, read within a nesting. -/
def sortKey : Nat → Json → Option SortKey
  | 0, _ => none
  | nesting + 1, json => do
      let fields ← json.record? sortKeyFields
      let expression ← Json.required? (expression nesting) "expression" fields
      let direction ← Json.required? SortDirection.ofJson? "direction" fields
      return .mk expression direction

/-- A grouping, read within a nesting. -/
def aggregation : Nat → Json → Option Aggregation
  | 0, _ => none
  | nesting + 1, json => do
      let fields ← json.record? aggregationFields
      let keys ← Json.required? (Json.list? (expression nesting)) "group_by" fields
      let having ← Json.optional? (filter nesting) "having" fields
      return .mk keys having

/-- A projection, read within a nesting. -/
def projection : Nat → Json → Option Projection
  | 0, _ => none
  | nesting + 1, json =>
      match json.variant? with
      | some ("path", some content) => (path nesting content).map .path
      | some ("function", some content) => (function nesting content).map .function
      | some ("constant", some content) => (Value.ofJson? content).map .constant
      | some ("target", some content) => do
          let fields ← content.fields?
          let name ← Json.optional? Json.text? "name" fields
          return .target name
      | some ("properties", some content) =>
          (Json.list? (projectionItem nesting) content).map .properties
      | some ("select_all", none) | some ("select_all", some .null) => some .selectAll
      | some ("count_all", none) | some ("count_all", some .null) => some .countAll
      | _ => none

/-- A named property, read within a nesting. -/
def projectionItem : Nat → Json → Option NamedProperty
  | 0, _ => none
  | nesting + 1, json => do
      let fields ← json.record? itemFields
      let name ← Json.required? Json.text? "name" fields
      let expression ← Json.required? (expression nesting) "expression" fields
      return .mk name expression

/-- A sub-query, read within a nesting. -/
def subQuery : Nat → Json → Option SubQuery
  | 0, _ => none
  | nesting + 1, json => do
      let fields ← json.record? subQueryFields
      let target ← Json.required? (target nesting) "target" fields
      let filter ← Json.optional? (filter nesting) "filter" fields
      let projection ← Json.required? (projection nesting) "projection" fields
      let correlations ← Json.required? (Json.list? Json.text?) "correlations" fields
      return .mk target filter projection correlations

end

end NodeReader

/-- The path that a document describes. -/
def Path.ofJson? (json : Json) : Option Path :=
  NodeReader.path json.nesting json

/-- The node that a document describes. -/
def Expression.ofJson? (json : Json) : Option Expression :=
  NodeReader.expression json.nesting json

/-- The function call that a document describes. -/
def FunctionCall.ofJson? (json : Json) : Option FunctionCall :=
  NodeReader.function json.nesting json

/-- The filter that a document describes. -/
def Filter.ofJson? (json : Json) : Option Filter :=
  NodeReader.filter json.nesting json

/-- The target that a document describes. -/
def Target.ofJson? (json : Json) : Option Target :=
  NodeReader.target json.nesting json

/-- The keys of an order that a document describes. -/
def SortKey.clauseOfJson? (json : Json) : Option (List SortKey) :=
  NodeReader.sort json.nesting json

/-- The grouping that a document describes. -/
def Aggregation.ofJson? (json : Json) : Option Aggregation :=
  NodeReader.aggregation json.nesting json

/-- The projection that a document describes. -/
def Projection.ofJson? (json : Json) : Option Projection :=
  NodeReader.projection json.nesting json

/-- The sub-query that a document describes. -/
def SubQuery.ofJson? (json : Json) : Option SubQuery :=
  NodeReader.subQuery json.nesting json

end ObjectQuery
