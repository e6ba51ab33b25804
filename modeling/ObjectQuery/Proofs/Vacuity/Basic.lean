import ObjectQuery.Operation.Basic

/-!
# Vacuous conditions

A conjunction or disjunction without conditions says nothing, so that no text can be written
for it. It may stand anywhere in a condition, and a condition may stand anywhere in an
operation: around operands, between joined targets, over groups, and in every sub-query.
-/

namespace ObjectQuery

mutual

/-- Whether a vacuous condition occurs in a node. -/
def Expression.hasVacuous : Expression → Bool
  | .path _ | .constant _ | .custom _ => false
  | .function call => FunctionCall.hasVacuous call
  | .subQuery query => SubQuery.hasVacuous query
  | .filter condition => Filter.hasVacuous condition
  | .sort keys => SortKey.haveVacuous keys
  | .aggregation grouping => Aggregation.hasVacuous grouping
  | .projection selected => Projection.hasVacuous selected
  | .target target => Target.hasVacuous target

/-- Whether a vacuous condition occurs in one of some nodes. -/
def Expression.haveVacuous : List Expression → Bool
  | [] => false
  | first :: rest => Expression.hasVacuous first || Expression.haveVacuous rest

/-- Whether a vacuous condition occurs in the arguments of a call. -/
def FunctionCall.hasVacuous : FunctionCall → Bool
  | .mk _ arguments _ => Expression.haveVacuous arguments

/-- Whether a condition is vacuous, or one occurs in it. -/
def Filter.hasVacuous : Filter → Bool
  | .isNull operand | .isNotNull operand => Expression.hasVacuous operand
  | .compare left _ right | .isIn left right | .isNotIn left right =>
      Expression.hasVacuous left || Expression.hasVacuous right
  | .between operand lower upper =>
      Expression.hasVacuous operand ||
        (Expression.hasVacuous lower || Expression.hasVacuous upper)
  | .stringMatch left value _ _ => Expression.hasVacuous value || Expression.hasVacuous left
  | .and [] | .or [] => true
  | .and (first :: rest) | .or (first :: rest) =>
      Filter.hasVacuous first || Filter.haveVacuous rest
  | .not condition => Filter.hasVacuous condition
  | .hasRows query | .hasNoRows query => SubQuery.hasVacuous query

/-- Whether a vacuous condition is among some conditions, or occurs in one of them. -/
def Filter.haveVacuous : List Filter → Bool
  | [] => false
  | first :: rest => Filter.hasVacuous first || Filter.haveVacuous rest

/-- Whether a condition that may be missing is vacuous, or one occurs in it. -/
def Filter.hasVacuousIfAny : Option Filter → Bool
  | none => false
  | some condition => Filter.hasVacuous condition

/-- Whether a vacuous condition occurs in what is joined to a target. -/
def Target.hasVacuous : Target → Bool
  | .mk _ _ _ joins => Join.haveVacuous joins

/-- Whether a vacuous condition occurs in a join. -/
def Join.hasVacuous : Join → Bool
  | .mk _ target condition => Filter.hasVacuousIfAny condition || Target.hasVacuous target

/-- Whether a vacuous condition occurs in one of some joins. -/
def Join.haveVacuous : List Join → Bool
  | [] => false
  | first :: rest => Join.hasVacuous first || Join.haveVacuous rest

/-- Whether a vacuous condition occurs in a sort key. -/
def SortKey.hasVacuous : SortKey → Bool
  | .mk key _ => Expression.hasVacuous key

/-- Whether a vacuous condition occurs in one of some sort keys. -/
def SortKey.haveVacuous : List SortKey → Bool
  | [] => false
  | first :: rest => SortKey.hasVacuous first || SortKey.haveVacuous rest

/-- Whether a vacuous condition occurs in the keys of a grouping or on its groups. -/
def Aggregation.hasVacuous : Aggregation → Bool
  | .mk keys having => Expression.haveVacuous keys || Filter.hasVacuousIfAny having

/-- Whether a vacuous condition occurs in a projection. -/
def Projection.hasVacuous : Projection → Bool
  | .function call => FunctionCall.hasVacuous call
  | .properties items => NamedProperty.haveVacuous items
  | .path _ | .constant _ | .target _ | .selectAll | .countAll => false

/-- Whether a vacuous condition occurs in a named property. -/
def NamedProperty.hasVacuous : NamedProperty → Bool
  | .mk _ item => Expression.hasVacuous item

/-- Whether a vacuous condition occurs in one of some named properties. -/
def NamedProperty.haveVacuous : List NamedProperty → Bool
  | [] => false
  | first :: rest => NamedProperty.hasVacuous first || NamedProperty.haveVacuous rest

/-- Whether a vacuous condition occurs in a sub-query. -/
def SubQuery.hasVacuous : SubQuery → Bool
  | .mk target filter projection _ =>
      Target.hasVacuous target ||
        (Filter.hasVacuousIfAny filter || Projection.hasVacuous projection)

end

/--
Whether a vacuous condition occurs in what is written of an operation: in every clause of a
select, and in the assigned values and the condition of a write.
-/
def Operation.hasVacuous (operation : Operation) : Bool :=
  match operation.kind with
  | .select =>
      operation.target.hasVacuous ||
        (operation.filter.any Filter.hasVacuous ||
          (operation.aggregation.any Aggregation.hasVacuous ||
            (operation.sort.any SortKey.haveVacuous ||
              operation.projection.any Projection.hasVacuous)))
  | .update | .delete | .insert =>
      (operation.values.any fun assignment => assignment.2.hasVacuous) ||
        operation.filter.any Filter.hasVacuous

end ObjectQuery
