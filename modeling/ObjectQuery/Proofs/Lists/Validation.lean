import ObjectQuery.Expression.Validation
import ObjectQuery.Proofs.Lists.Basic

/-!
# Where the check of a node finds fault with a list

A list on the right side of a comparison is a fault, and so is one with nothing or with a null in
it on the right side of a membership. No other place is looked at: a node is valid just when it
is without its lists and they stand right in these two.
-/

namespace ObjectQuery
namespace Validation

open OperandPlace (AllFit Takes allFit_nil allFit_cons allFit_arguments allFit_selected)
open Inquiry

@[simp]
theorem operandRole_unlisted (role : String) (operand : Expression) :
    operandRole role operand.unlisted = operandRole role operand := by
  cases operand with
  | constant value =>
      cases value <;>
        simp [operandRole, Expression.unlisted, Value.unlisted, Expression.isOperand,
          Expression.kind]
  | _ => simp [operandRole, Expression.unlisted, Expression.isOperand, Expression.kind]

@[simp]
theorem keyRole_unlisted (expression verb : String) (key : Expression) :
    keyRole expression verb key.unlisted = keyRole expression verb key := by
  simp [keyRole]

theorem comparedValue_iff (right : Expression) :
    comparedValue right = .ok () ↔
      comparedValue right.unlisted = .ok () ∧ right.FitsIn .comparedRight := by
  cases right with
  | constant value =>
      cases value with
      | list items => simp [comparedValue, fail, Takes]
      | _ => simp [comparedValue, Expression.unlisted, Value.unlisted, Expression.FitsIn]
  | _ => simp [comparedValue, Expression.unlisted, Expression.FitsIn]

theorem memberList_iff (items : List Value) :
    memberList items = .ok () ↔ OperandPlace.members.Takes items := by
  simp [memberList, Takes]

theorem memberRole_iff (right : Expression) :
    memberRole right = .ok () ↔
      memberRole right.unlisted = .ok () ∧ right.FitsIn .members := by
  cases right with
  | constant value =>
      cases value with
      | list items =>
          simp [memberRole, memberList_iff, Expression.unlisted, Value.unlisted]
      | _ => simp [memberRole, Expression.unlisted, Value.unlisted, Expression.FitsIn]
  | subQuery query => simp [memberRole, Expression.unlisted, Expression.FitsIn]
  | _ =>
      simp [memberRole, Expression.unlisted, operandRole, Expression.isOperand,
        Expression.kind, Expression.FitsIn]

mutual

theorem expression_iff (depth : Nat) :
    (node : Expression) →
      (expression node = .ok () ↔
        expression node.unlisted = .ok () ∧
          AllFit node.operands ∧ AllListsFit (node.inquiries depth))
  | .path found => by
      simp [Expression.unlisted, Expression.operands, Expression.inquiries]
  | .constant value => by
      simp [Expression.unlisted, Expression.operands, Expression.inquiries, expression]
  | .custom node => by
      simp [Expression.unlisted, Expression.operands, Expression.inquiries]
  | .function call => by
      simp only [Expression.unlisted, Expression.inquiries, expression, allFit_arguments,
        function_iff depth call, true_and]
  | .subQuery query => by
      simp only [Expression.unlisted, Expression.operands, Expression.inquiries, expression,
        subQuery_iff depth query, allFit_nil, true_and]
  | .filter condition => by
      simp only [Expression.unlisted, Expression.operands, Expression.inquiries, expression]
      exact filter_iff depth condition
  | .sort keys => by
      simp only [Expression.unlisted, Expression.operands, Expression.inquiries, expression,
        andThen_ok_iff, SortKey.isEmpty_allUnlisted, sortKeys_iff depth keys, allFit_nil,
        true_and, and_assoc]
  | .aggregation found => by
      simp only [Expression.unlisted, Expression.operands, Expression.inquiries, expression,
        aggregation_iff depth found, allFit_nil, true_and]
  | .projection found => by
      simp only [Expression.unlisted, Expression.inquiries, expression, allFit_selected,
        projection_iff depth found, true_and]
  | .target found => by
      simp only [Expression.unlisted, Expression.operands, Expression.inquiries, expression,
        target_iff depth found, allFit_nil, true_and]

theorem function_iff (depth : Nat) :
    (call : FunctionCall) →
      (function call = .ok () ↔
        function call.unlisted = .ok () ∧ AllListsFit (call.inquiries depth))
  | .mk kind arguments distinct => by
      simp only [FunctionCall.unlisted, FunctionCall.inquiries, function, andThen_ok_iff,
        Expression.length_allUnlisted, functionArguments_iff depth kind arguments, and_assoc]

theorem functionArguments_iff (depth : Nat) (kind : FunctionKind) :
    (arguments : List Expression) →
      (functionArguments kind arguments = .ok () ↔
        functionArguments kind (Expression.allUnlisted arguments) = .ok () ∧
          AllListsFit (Expression.eachInquiries depth arguments))
  | [] => by simp [Expression.allUnlisted, Expression.eachInquiries]
  | argument :: rest => by
      simp only [Expression.allUnlisted, Expression.eachInquiries, functionArguments,
        andThen_ok_iff, Expression.isOperand_unlisted, Expression.kind_unlisted,
        expression_iff depth argument, functionArguments_iff depth kind rest,
        allListsFit_append, allListsFit_cons]
      simp only [and_assoc, and_comm, and_left_comm]

theorem filter_iff (depth : Nat) :
    (condition : Filter) →
      (filter condition = .ok () ↔
        filter condition.unlisted = .ok () ∧
          AllFit condition.operands ∧ AllListsFit (condition.inquiries depth))
  | .isNull operand | .isNotNull operand => by
      simp [Filter.unlisted, Filter.operands, Filter.inquiries, filter,
        expression_iff depth operand, and_assoc]
  | .compare left operator right => by
      simp only [Filter.unlisted, Filter.operands, Filter.inquiries, filter, andThen_ok_iff,
        operandRole_unlisted, expression_iff depth left, expression_iff depth right,
        comparedValue_iff right, allFit_cons, allListsFit_append, allListsFit_cons]
      simp [and_assoc, and_comm, and_left_comm]
  | .between operand lower upper => by
      simp only [Filter.unlisted, Filter.operands, Filter.inquiries, filter, andThen_ok_iff,
        operandRole_unlisted, expression_iff depth operand, expression_iff depth lower,
        expression_iff depth upper, allFit_cons, allListsFit_append, allListsFit_cons]
      simp [and_assoc, and_comm, and_left_comm]
  | .isIn left right | .isNotIn left right => by
      simp only [Filter.unlisted, Filter.operands, Filter.inquiries, filter, andThen_ok_iff,
        operandRole_unlisted, expression_iff depth left, expression_iff depth right,
        memberRole_iff right, allFit_cons, allListsFit_append, allListsFit_cons]
      simp [and_assoc, and_comm, and_left_comm]
  | .stringMatch left value mode ignoreCase => by
      simp only [Filter.unlisted, Filter.operands, Filter.inquiries, filter, andThen_ok_iff,
        operandRole_unlisted, expression_iff depth left, allFit_cons, allListsFit_cons]
      simp [and_assoc, and_comm]
  | .and conditions | .or conditions => by
      simp only [Filter.unlisted, Filter.operands, Filter.inquiries, filter,
        filters_iff depth conditions, allFit_nil, true_and]
  | .not condition => by
      simp only [Filter.unlisted, Filter.operands, Filter.inquiries, filter,
        filter_iff depth condition, allListsFit_cons, Expression.operands, allFit_nil, true_and]
  | .hasRows query | .hasNoRows query => by
      simp only [Filter.unlisted, Filter.operands, Filter.inquiries, filter,
        subQuery_iff depth query, allListsFit_cons, Expression.operands, allFit_nil, true_and]

theorem filters_iff (depth : Nat) :
    (conditions : List Filter) →
      (filters conditions = .ok () ↔
        filters (Filter.allUnlisted conditions) = .ok () ∧
          AllListsFit (Filter.eachInquiries depth conditions))
  | [] => by simp [Filter.allUnlisted, Filter.eachInquiries]
  | first :: rest => by
      simp only [Filter.allUnlisted, Filter.eachInquiries, filters, andThen_ok_iff,
        filter_iff depth first, filters_iff depth rest, allListsFit_append, allListsFit_cons,
        Expression.operands]
      simp only [and_assoc, and_comm, and_left_comm]

theorem target_iff (depth : Nat) :
    (found : Target) →
      (target found = .ok () ↔
        target found.unlisted = .ok () ∧ AllListsFit (found.inquiries depth))
  | .mk name entity given joined => by
      simp only [Target.unlisted, Target.inquiries, target, andThen_ok_iff,
        joins_iff depth joined, and_assoc]

theorem joins_iff (depth : Nat) :
    (joined : List Join) →
      (joins joined = .ok () ↔
        joins (Join.allUnlisted joined) = .ok () ∧
          AllListsFit (Join.eachInquiries depth joined))
  | [] => by simp [Join.allUnlisted, Join.eachInquiries]
  | first :: rest => by
      simp only [Join.allUnlisted, Join.eachInquiries, joins, andThen_ok_iff,
        join_iff depth first, joins_iff depth rest, allListsFit_append]
      simp only [and_assoc, and_comm, and_left_comm]

theorem join_iff (depth : Nat) :
    (found : Join) →
      (join found = .ok () ↔
        join found.unlisted = .ok () ∧ AllListsFit (found.inquiries depth))
  | .mk joinType joined none => by
      simp only [Join.unlisted, Join.inquiries, Filter.unlistedIfAny, Filter.inquiriesIfAny, join,
        andThen_ok_iff, target_iff depth joined, List.nil_append, and_true]
  | .mk joinType joined (some condition) => by
      simp only [Join.unlisted, Join.inquiries, Filter.unlistedIfAny, Filter.inquiriesIfAny, join,
        andThen_ok_iff, target_iff depth joined, filter_iff depth condition, allListsFit_append,
        allListsFit_cons, Expression.operands]
      simp only [and_assoc, and_comm, and_left_comm]

theorem sortKeys_iff (depth : Nat) :
    (keys : List SortKey) →
      (sortKeys keys = .ok () ↔
        sortKeys (SortKey.allUnlisted keys) = .ok () ∧
          AllListsFit (SortKey.eachInquiries depth keys))
  | [] => by simp [SortKey.allUnlisted, SortKey.eachInquiries]
  | .mk key direction :: rest => by
      simp only [SortKey.allUnlisted, SortKey.unlisted, SortKey.eachInquiries, SortKey.inquiries,
        sortKeys, sortKey, andThen_ok_iff, keyRole_unlisted, expression_iff depth key,
        sortKeys_iff depth rest, allListsFit_append, allListsFit_cons]
      simp only [and_assoc, and_comm, and_left_comm]

theorem aggregation_iff (depth : Nat) :
    (found : Aggregation) →
      (aggregation found = .ok () ↔
        aggregation found.unlisted = .ok () ∧ AllListsFit (found.inquiries depth))
  | .mk keys none => by
      simp only [Aggregation.unlisted, Aggregation.inquiries, Filter.unlistedIfAny,
        Filter.inquiriesIfAny, aggregation, andThen_ok_iff, Expression.isEmpty_allUnlisted,
        groupKeys_iff depth keys, List.append_nil, and_true, and_assoc]
  | .mk keys (some having) => by
      simp only [Aggregation.unlisted, Aggregation.inquiries, Filter.unlistedIfAny,
        Filter.inquiriesIfAny, aggregation, andThen_ok_iff, Expression.isEmpty_allUnlisted,
        groupKeys_iff depth keys, filter_iff depth having, allListsFit_append, allListsFit_cons,
        Expression.operands]
      simp only [and_assoc, and_comm, and_left_comm]

theorem groupKeys_iff (depth : Nat) :
    (keys : List Expression) →
      (groupKeys keys = .ok () ↔
        groupKeys (Expression.allUnlisted keys) = .ok () ∧
          AllListsFit (Expression.eachInquiries depth keys))
  | [] => by simp [Expression.allUnlisted, Expression.eachInquiries]
  | key :: rest => by
      simp only [Expression.allUnlisted, Expression.eachInquiries, groupKeys, andThen_ok_iff,
        keyRole_unlisted, expression_iff depth key, groupKeys_iff depth rest,
        allListsFit_append, allListsFit_cons]
      simp only [and_assoc, and_comm, and_left_comm]

theorem projection_iff (depth : Nat) :
    (found : Projection) →
      (projection found = .ok () ↔
        projection found.unlisted = .ok () ∧ AllListsFit (found.inquiries depth))
  | .path found => by
      simp [Projection.unlisted, Projection.inquiries, Expression.operands]
  | .function call => by
      simp only [Projection.unlisted, Projection.inquiries, projection, function_iff depth call,
        allListsFit_cons, allFit_arguments, true_and]
  | .constant value => by simp [Projection.unlisted, Projection.inquiries]
  | .target name => by simp [Projection.unlisted, Projection.inquiries]
  | .properties items => by
      simp only [Projection.unlisted, Projection.inquiries, projection, andThen_ok_iff,
        NamedProperty.isEmpty_allUnlisted, projectionItems_iff depth [] items, and_assoc]
  | .selectAll => by simp [Projection.unlisted, Projection.inquiries]
  | .countAll => by simp [Projection.unlisted, Projection.inquiries]

theorem projectionItems_iff (depth : Nat) (earlier : List String) :
    (items : List NamedProperty) →
      (projectionItems earlier items = .ok () ↔
        projectionItems earlier (NamedProperty.allUnlisted items) = .ok () ∧
          AllListsFit (NamedProperty.eachInquiries depth items))
  | [] => by simp [NamedProperty.allUnlisted, NamedProperty.eachInquiries]
  | .mk name item :: rest => by
      simp only [NamedProperty.allUnlisted, NamedProperty.unlisted, NamedProperty.eachInquiries,
        NamedProperty.inquiries, projectionItems, andThen_ok_iff, Expression.isOperand_unlisted,
        expression_iff depth item, projectionItems_iff depth (name :: earlier) rest,
        allListsFit_append, allListsFit_cons]
      simp only [and_assoc, and_comm, and_left_comm]

theorem subQuery_iff (depth : Nat) :
    (query : SubQuery) →
      (subQuery query = .ok () ↔
        subQuery query.unlisted = .ok () ∧ AllListsFit (query.inquiries depth))
  | .mk queried none selected correlations => by
      simp only [SubQuery.unlisted, SubQuery.inquiries, Filter.unlistedIfAny,
        Filter.inquiriesIfAny, subQuery, andThen_ok_iff, target_iff (depth + 1) queried,
        Projection.hasSeveralColumns_unlisted, projection_iff (depth + 1) selected,
        allListsFit_append, allListsFit_cons, allListsFit_nil, allFit_selected]
      simp [Expression.operands, and_assoc, and_comm, and_left_comm]
  | .mk queried (some condition) selected correlations => by
      simp only [SubQuery.unlisted, SubQuery.inquiries, Filter.unlistedIfAny,
        Filter.inquiriesIfAny, subQuery, andThen_ok_iff, target_iff (depth + 1) queried,
        filter_iff (depth + 1) condition, Projection.hasSeveralColumns_unlisted,
        projection_iff (depth + 1) selected, allListsFit_append, allListsFit_cons,
        allFit_selected]
      simp [Expression.operands, and_assoc, and_comm, and_left_comm]

end

end Validation
end ObjectQuery
