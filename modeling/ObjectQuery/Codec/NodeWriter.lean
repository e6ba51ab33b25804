import ObjectQuery.Codec.Value
import ObjectQuery.Codec.Words

/-!
# Writing nodes as JSON

A node is a variant named for its kind, and each clause a record of its parts. A
part that is missing is null. Custom nodes have no form of their own and become
null, which reads back as no node.
-/

namespace ObjectQuery

/-- A path in JSON. -/
def Path.toJson : Path → Json
  | .mk name valueType parent target aliasName =>
      .object
        [("name", .string name),
          ("value_type", valueType.toJson),
          ("parent",
            match parent with
            | none => .null
            | some enclosing => enclosing.toJson),
          ("target", .ofText? target),
          ("alias", .ofText? aliasName)]

mutual

/-- A node in JSON. -/
def Expression.toJson : Expression → Json
  | .path path => .tagged "path" path.toJson
  | .constant value => .tagged "constant" value.toJson
  | .function call => .tagged "function" (FunctionCall.toJson call)
  | .subQuery query => .tagged "sub_query" (SubQuery.toJson query)
  | .filter condition => .tagged "filter" (Filter.toJson condition)
  | .sort keys => .tagged "sort" (.tagged "items" (.array (SortKey.toJsons keys)))
  | .aggregation grouping => .tagged "aggregation" (Aggregation.toJson grouping)
  | .projection selected => .tagged "projection" (Projection.toJson selected)
  | .target target => .tagged "target" (Target.toJson target)
  | .custom _ => .null

/-- Nodes in JSON. -/
def Expression.toJsons : List Expression → List Json
  | [] => []
  | first :: rest => Expression.toJson first :: Expression.toJsons rest

/-- A function call in JSON. -/
def FunctionCall.toJson : FunctionCall → Json
  | .mk kind arguments distinct =>
      .object
        [("kind", kind.toJson),
          ("args", .array (Expression.toJsons arguments)),
          ("distinct", .bool distinct)]

/-- A filter in JSON. -/
def Filter.toJson : Filter → Json
  | .isNull operand => .tagged "is_null" (Expression.toJson operand)
  | .isNotNull operand => .tagged "is_not_null" (Expression.toJson operand)
  | .compare left operator right =>
      .tagged "compare" (.object
        [("left", Expression.toJson left),
          ("op", operator.toJson),
          ("right", Expression.toJson right)])
  | .between operand lower upper =>
      .tagged "between" (.object
        [("expr", Expression.toJson operand),
          ("from", Expression.toJson lower),
          ("to", Expression.toJson upper)])
  | .isIn left right =>
      .tagged "in" (.object
        [("left", Expression.toJson left), ("right", Expression.toJson right)])
  | .isNotIn left right =>
      .tagged "not_in" (.object
        [("left", Expression.toJson left), ("right", Expression.toJson right)])
  | .stringMatch left value mode ignoreCase =>
      .tagged "string_match" (.object
        [("left", Expression.toJson left),
          ("value", Expression.toJson value),
          ("mode", mode.toJson),
          ("ignore_case", .bool ignoreCase)])
  | .and conditions => .tagged "and" (.array (Filter.toJsons conditions))
  | .or conditions => .tagged "or" (.array (Filter.toJsons conditions))
  | .not condition => .tagged "not" (Filter.toJson condition)
  | .hasRows query => .tagged "exists" (SubQuery.toJson query)
  | .hasNoRows query => .tagged "not_exists" (SubQuery.toJson query)

/-- Filters in JSON. -/
def Filter.toJsons : List Filter → List Json
  | [] => []
  | first :: rest => Filter.toJson first :: Filter.toJsons rest

/-- A filter in JSON, or null. -/
def Filter.toJsonOrNull : Option Filter → Json
  | none => .null
  | some condition => Filter.toJson condition

/-- A target in JSON. -/
def Target.toJson : Target → Json
  | .mk name entity aliasName joins =>
      .object
        [("name", .string name),
          ("entity", .ofText? entity),
          ("alias", .ofText? aliasName),
          ("joins", .array (Join.toJsons joins))]

/-- A join in JSON. -/
def Join.toJson : Join → Json
  | .mk joinType target condition =>
      .object
        [("join_type", joinType.toJson),
          ("target", Target.toJson target),
          ("on", Filter.toJsonOrNull condition)]

/-- Joins in JSON. -/
def Join.toJsons : List Join → List Json
  | [] => []
  | first :: rest => Join.toJson first :: Join.toJsons rest

/-- A sort key in JSON. -/
def SortKey.toJson : SortKey → Json
  | .mk expression direction =>
      .object [("expression", Expression.toJson expression), ("direction", direction.toJson)]

/-- Sort keys in JSON. -/
def SortKey.toJsons : List SortKey → List Json
  | [] => []
  | first :: rest => SortKey.toJson first :: SortKey.toJsons rest

/-- A grouping in JSON. -/
def Aggregation.toJson : Aggregation → Json
  | .mk keys having =>
      .object
        [("group_by", .array (Expression.toJsons keys)), ("having", Filter.toJsonOrNull having)]

/-- A projection in JSON. -/
def Projection.toJson : Projection → Json
  | .path path => .tagged "path" path.toJson
  | .function call => .tagged "function" (FunctionCall.toJson call)
  | .constant value => .tagged "constant" value.toJson
  | .target name => .tagged "target" (.tagged "name" (.ofText? name))
  | .properties items => .tagged "properties" (.array (NamedProperty.toJsons items))
  | .selectAll => .string "select_all"
  | .countAll => .string "count_all"

/-- A named property in JSON. -/
def NamedProperty.toJson : NamedProperty → Json
  | .mk name expression =>
      .object [("name", .string name), ("expression", Expression.toJson expression)]

/-- Named properties in JSON. -/
def NamedProperty.toJsons : List NamedProperty → List Json
  | [] => []
  | first :: rest => NamedProperty.toJson first :: NamedProperty.toJsons rest

/-- A sub-query in JSON. -/
def SubQuery.toJson : SubQuery → Json
  | .mk target filter projection correlations =>
      .object
        [("target", Target.toJson target),
          ("filter", Filter.toJsonOrNull filter),
          ("projection", Projection.toJson projection),
          ("correlations", .ofTexts correlations)]

end

/-- Sort keys in the record that holds them. -/
def SortKey.clauseToJson (keys : List SortKey) : Json :=
  .tagged "items" (.array (SortKey.toJsons keys))

end ObjectQuery
