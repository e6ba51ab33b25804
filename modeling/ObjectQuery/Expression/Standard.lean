import ObjectQuery.Operation.Basic

/-!
# Nodes of the library alone

A node is standard when it holds no custom node anywhere. Standard nodes can be
written as JSON, and the library's own resolvers answer for all of them.
-/

namespace ObjectQuery

mutual

/-- Whether a node holds no custom node. -/
def Expression.isStandard : Expression → Bool
  | .path _ | .constant _ => true
  | .function call => FunctionCall.isStandard call
  | .subQuery query => SubQuery.isStandard query
  | .filter condition => Filter.isStandard condition
  | .sort keys => SortKey.areStandard keys
  | .aggregation grouping => Aggregation.isStandard grouping
  | .projection selected => Projection.isStandard selected
  | .target target => Target.isStandard target
  | .custom _ => false

/-- Whether nodes hold no custom node. -/
def Expression.areStandard : List Expression → Bool
  | [] => true
  | first :: rest => Expression.isStandard first && Expression.areStandard rest

/-- Whether the arguments of a call hold no custom node. -/
def FunctionCall.isStandard : FunctionCall → Bool
  | .mk _ arguments _ => Expression.areStandard arguments

/-- Whether a filter holds no custom node. -/
def Filter.isStandard : Filter → Bool
  | .isNull operand | .isNotNull operand => Expression.isStandard operand
  | .compare left _ right | .isIn left right | .isNotIn left right =>
      Expression.isStandard left && Expression.isStandard right
  | .between operand lower upper =>
      Expression.isStandard operand && Expression.isStandard lower && Expression.isStandard upper
  | .stringMatch left value _ _ => Expression.isStandard left && Expression.isStandard value
  | .and conditions | .or conditions => Filter.areStandard conditions
  | .not condition => Filter.isStandard condition
  | .hasRows query | .hasNoRows query => SubQuery.isStandard query

/-- Whether filters hold no custom node. -/
def Filter.areStandard : List Filter → Bool
  | [] => true
  | first :: rest => Filter.isStandard first && Filter.areStandard rest

/-- Whether a filter that may be missing holds no custom node. -/
def Filter.isStandardIfAny : Option Filter → Bool
  | none => true
  | some condition => Filter.isStandard condition

/-- Whether a target and what is joined to it hold no custom node. -/
def Target.isStandard : Target → Bool
  | .mk _ _ _ joins => Join.areStandard joins

/-- Whether a join holds no custom node. -/
def Join.isStandard : Join → Bool
  | .mk _ target condition => Target.isStandard target && Filter.isStandardIfAny condition

/-- Whether joins hold no custom node. -/
def Join.areStandard : List Join → Bool
  | [] => true
  | first :: rest => Join.isStandard first && Join.areStandard rest

/-- Whether a sort key holds no custom node. -/
def SortKey.isStandard : SortKey → Bool
  | .mk expression _ => Expression.isStandard expression

/-- Whether sort keys hold no custom node. -/
def SortKey.areStandard : List SortKey → Bool
  | [] => true
  | first :: rest => SortKey.isStandard first && SortKey.areStandard rest

/-- Whether a grouping holds no custom node. -/
def Aggregation.isStandard : Aggregation → Bool
  | .mk keys having => Expression.areStandard keys && Filter.isStandardIfAny having

/-- Whether a projection holds no custom node. -/
def Projection.isStandard : Projection → Bool
  | .function call => FunctionCall.isStandard call
  | .properties items => NamedProperty.areStandard items
  | .path _ | .constant _ | .target _ | .selectAll | .countAll => true

/-- Whether a named property holds no custom node. -/
def NamedProperty.isStandard : NamedProperty → Bool
  | .mk _ expression => Expression.isStandard expression

/-- Whether named properties hold no custom node. -/
def NamedProperty.areStandard : List NamedProperty → Bool
  | [] => true
  | first :: rest => NamedProperty.isStandard first && NamedProperty.areStandard rest

/-- Whether a sub-query holds no custom node. -/
def SubQuery.isStandard : SubQuery → Bool
  | .mk target filter projection _ =>
      Target.isStandard target && Filter.isStandardIfAny filter && Projection.isStandard projection

end

/-- Whether no part of an operation holds a custom node. -/
def Operation.isStandard (operation : Operation) : Bool :=
  operation.target.isStandard && Filter.isStandardIfAny operation.filter &&
    (operation.aggregation.all Aggregation.isStandard) &&
    (operation.sort.all SortKey.areStandard) &&
    (operation.projection.all Projection.isStandard) &&
    (operation.values.all fun assignment => assignment.2.isStandard)

end ObjectQuery
