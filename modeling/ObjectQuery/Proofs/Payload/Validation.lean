import ObjectQuery.Proofs.Payload.Masking

/-!
# Validation does not see payloads

A check looks at names, at the kinds of nodes, at the variants of constants and at the
length of lists. Masking keeps all of them, so a node and its mask pass together or fail
with the same fault.
-/

namespace ObjectQuery
namespace Validation

@[simp] theorem operandRole_masked (role : String) (operand : Expression) :
    operandRole role operand.masked = operandRole role operand := by
  cases operand with
  | constant value =>
      cases value <;>
        simp [operandRole, Expression.masked, Value.masked, Value.sample,
          Expression.isOperand, Expression.kind]
  | _ => simp [operandRole, Expression.masked, Expression.isOperand, Expression.kind]

@[simp] theorem matchedValue_masked (value : Expression) :
    matchedValue value.masked = matchedValue value := by
  cases value with
  | constant value => cases value <;> rfl
  | _ => simp [matchedValue, Expression.masked]

@[simp] theorem keyRole_masked (expression verb : String) (key : Expression) :
    keyRole expression verb key.masked = keyRole expression verb key := by
  simp [keyRole]

@[simp] theorem comparedValue_masked (right : Expression) :
    comparedValue right.masked = comparedValue right := by
  cases right with
  | constant value => cases value <;> rfl
  | _ => simp [comparedValue, Expression.masked]

@[simp] theorem memberList_map_sample (items : List Value) :
    memberList (items.map Value.sample) = memberList items := by
  have isNull : Value.isNull ∘ Value.sample = Value.isNull :=
    funext Value.isNull_sample
  simp [memberList, List.any_map, isNull]

@[simp] theorem memberRole_masked (right : Expression) :
    memberRole right.masked = memberRole right := by
  cases right with
  | constant value =>
      cases value with
      | list items => simp [memberRole, Expression.masked, Value.masked]
      | _ => rfl
  | subQuery query => simp [memberRole, Expression.masked]
  | _ =>
      simp [memberRole, Expression.masked, operandRole, Expression.isOperand,
        Expression.kind]

mutual

/-- A node and its mask pass together or fail with the same fault. -/
theorem expression_masked :
    (node : Expression) → expression node.masked = expression node
  | .path found => by simp only [Expression.masked]
  | .constant value => by simp only [Expression.masked, expression]
  | .function call => by simp only [Expression.masked, expression, function_masked call]
  | .subQuery query => by simp only [Expression.masked, expression, subQuery_masked query]
  | .filter condition => by simp only [Expression.masked, expression, filter_masked condition]
  | .sort keys => by
      simp only [Expression.masked, expression, SortKey.isEmpty_allMasked, sortKeys_masked keys]
  | .aggregation found => by
      simp only [Expression.masked, expression, aggregation_masked found]
  | .projection found => by simp only [Expression.masked, expression, projection_masked found]
  | .target found => by simp only [Expression.masked, expression, target_masked found]
  | .custom node => by simp only [Expression.masked]

theorem function_masked :
    (call : FunctionCall) → function call.masked = function call
  | .mk kind arguments distinct => by
      simp only [FunctionCall.masked, function, Expression.length_allMasked,
        functionArguments_masked kind arguments]

theorem functionArguments_masked (kind : FunctionKind) :
    (arguments : List Expression) →
      functionArguments kind (Expression.allMasked arguments) = functionArguments kind arguments
  | [] => by simp only [Expression.allMasked]
  | argument :: rest => by
      simp only [Expression.allMasked, functionArguments, Expression.isOperand_masked,
        Expression.kind_masked, expression_masked argument, functionArguments_masked kind rest]

theorem filter_masked :
    (condition : Filter) → filter condition.masked = filter condition
  | .isNull operand | .isNotNull operand => by
      simp only [Filter.masked, filter, Expression.isOperand_masked, Expression.kind_masked,
        expression_masked operand]
  | .compare left operator right => by
      simp only [Filter.masked, filter, operandRole_masked, comparedValue_masked,
        expression_masked left, expression_masked right]
  | .between operand lower upper => by
      simp only [Filter.masked, filter, operandRole_masked, expression_masked operand,
        expression_masked lower, expression_masked upper]
  | .isIn left right | .isNotIn left right => by
      simp only [Filter.masked, filter, operandRole_masked, memberRole_masked,
        expression_masked left, expression_masked right]
  | .stringMatch left value mode ignoreCase => by
      simp only [Filter.masked, filter, operandRole_masked, matchedValue_masked,
        expression_masked left]
  | .and conditions | .or conditions => by
      simp only [Filter.masked, filter, filters_masked conditions]
  | .not condition => by simp only [Filter.masked, filter, filter_masked condition]
  | .hasRows query | .hasNoRows query => by
      simp only [Filter.masked, filter, subQuery_masked query]

theorem filters_masked :
    (conditions : List Filter) → filters (Filter.allMasked conditions) = filters conditions
  | [] => by simp only [Filter.allMasked]
  | condition :: rest => by
      simp only [Filter.allMasked, filters, filter_masked condition, filters_masked rest]

theorem target_masked :
    (found : Target) → target found.masked = target found
  | .mk name entity given joined => by
      simp only [Target.masked, target, joins_masked joined]

theorem joins_masked :
    (joined : List Join) → joins (Join.allMasked joined) = joins joined
  | [] => by simp only [Join.allMasked]
  | first :: rest => by
      simp only [Join.allMasked, joins, join_masked first, joins_masked rest]

theorem join_masked :
    (found : Join) → join found.masked = join found
  | .mk joinType joined none => by
      simp only [Join.masked, Filter.maskedIfAny, join, target_masked joined]
  | .mk joinType joined (some condition) => by
      simp only [Join.masked, Filter.maskedIfAny, join, target_masked joined,
        filter_masked condition]

theorem sortKeys_masked :
    (keys : List SortKey) → sortKeys (SortKey.allMasked keys) = sortKeys keys
  | [] => by simp only [SortKey.allMasked]
  | key :: rest => by
      simp only [SortKey.allMasked, sortKeys, sortKey_masked key, sortKeys_masked rest]

theorem sortKey_masked :
    (key : SortKey) → sortKey key.masked = sortKey key
  | .mk key direction => by
      simp only [SortKey.masked, sortKey, keyRole_masked, expression_masked key]

theorem aggregation_masked :
    (found : Aggregation) → aggregation found.masked = aggregation found
  | .mk keys none => by
      simp only [Aggregation.masked, Filter.maskedIfAny, aggregation,
        Expression.isEmpty_allMasked, groupKeys_masked keys]
  | .mk keys (some having) => by
      simp only [Aggregation.masked, Filter.maskedIfAny, aggregation,
        Expression.isEmpty_allMasked, groupKeys_masked keys, filter_masked having]

theorem groupKeys_masked :
    (keys : List Expression) → groupKeys (Expression.allMasked keys) = groupKeys keys
  | [] => by simp only [Expression.allMasked]
  | key :: rest => by
      simp only [Expression.allMasked, groupKeys, keyRole_masked, expression_masked key,
        groupKeys_masked rest]

theorem projection_masked :
    (found : Projection) → projection found.masked = projection found
  | .path found => by simp only [Projection.masked]
  | .function call => by simp only [Projection.masked, projection, function_masked call]
  | .constant value => by simp only [Projection.masked]
  | .target name => by simp only [Projection.masked]
  | .properties items => by
      simp only [Projection.masked, projection, NamedProperty.isEmpty_allMasked,
        projectionItems_masked [] items]
  | .selectAll => by simp only [Projection.masked]
  | .countAll => by simp only [Projection.masked]

theorem projectionItems_masked (earlier : List String) :
    (items : List NamedProperty) →
      projectionItems earlier (NamedProperty.allMasked items) = projectionItems earlier items
  | [] => by simp only [NamedProperty.allMasked]
  | .mk name item :: rest => by
      simp only [NamedProperty.allMasked, NamedProperty.masked, projectionItems,
        Expression.isOperand_masked, expression_masked item,
        projectionItems_masked (name :: earlier) rest]

theorem subQuery_masked :
    (query : SubQuery) → subQuery query.masked = subQuery query
  | .mk queried none selected correlations => by
      simp only [SubQuery.masked, Filter.maskedIfAny, subQuery, target_masked queried,
        Projection.hasSeveralColumns_masked, projection_masked selected]
  | .mk queried (some condition) selected correlations => by
      simp only [SubQuery.masked, Filter.maskedIfAny, subQuery, target_masked queried,
        filter_masked condition, Projection.hasSeveralColumns_masked,
        projection_masked selected]

end

end Validation

@[simp] theorem Expression.validate_masked (expression : Expression) :
    expression.masked.validate = expression.validate :=
  Validation.expression_masked expression

end ObjectQuery
