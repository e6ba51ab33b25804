import ObjectQuery.Composition.Operation

/-!
# Registries that answer alike

The library's own answers ask the registry about the parts of a node. Two registries that
choose alike, given equal answers of the library, therefore resolve every node alike, and
compose every operation alike. The proof follows the mutual recursion of the resolvers.
-/

namespace ObjectQuery

/-- The registries make the same of a node, whatever the library's own answer for it is. -/
def Resolvers.Alike (left right : Resolvers) : Prop :=
  ∀ expression output own,
    left.dispatch expression output own = right.dispatch expression output own

namespace Resolvers.Alike

variable {left right : Resolvers} (alike : left.Alike right)

include alike

theorem fragment (expression : Expression) (own : Resolution Resolved) :
    left.fragment expression own = right.fragment expression own := by
  rw [Resolvers.fragment, Resolvers.fragment, alike]

theorem predicate (expression : Expression) (own : Resolution Resolved) :
    left.predicate expression own = right.predicate expression own := by
  rw [Resolvers.predicate, Resolvers.predicate, predicate?, predicate?, alike]

theorem plan (expression : Expression) (own : Resolution Resolved) :
    left.plan expression own = right.plan expression own := by
  rw [Resolvers.plan, Resolvers.plan, alike]

end Resolvers.Alike

namespace BuiltIn

variable {left right : Resolvers}

mutual

/-- The library's own answer for a node is the same. -/
theorem answer_alike (alike : left.Alike right) :
    (node : Expression) → answer left node = answer right node
  | .path _ | .constant _ | .custom _ => by simp only [answer]
  | .function call => by simp only [answer, function_alike alike call]
  | .subQuery query => by simp only [answer, subQuery_alike alike query]
  | .filter condition => by simp only [answer, filter_alike alike condition]
  | .sort keys => by simp only [answer, sortKeys_alike alike keys]
  | .aggregation grouping => by simp only [answer, aggregation_alike alike grouping]
  | .projection selected => by simp only [answer, projection_alike alike selected]
  | .target found => by simp only [answer, target_alike alike found]

theorem function_alike (alike : left.Alike right) :
    (call : FunctionCall) → function left call = function right call
  | .mk kind arguments distinct => by simp only [function, fragments_alike alike arguments]

theorem fragments_alike (alike : left.Alike right) :
    (nodes : List Expression) → fragments left nodes = fragments right nodes
  | [] => by simp only [fragments]
  | first :: rest => by
      simp only [fragments, alike.fragment, answer_alike alike first, fragments_alike alike rest]

theorem filter_alike (alike : left.Alike right) :
    (condition : Filter) → filter left condition = filter right condition
  | .isNull operand | .isNotNull operand => by
      simp only [filter, alike.fragment, answer_alike alike operand]
  | .compare first _ second | .isIn first second | .isNotIn first second => by
      simp only [filter, alike.fragment, answer_alike alike first, answer_alike alike second]
  | .between operand lower upper => by
      simp only [filter, alike.fragment, answer_alike alike operand, answer_alike alike lower,
        answer_alike alike upper]
  | .stringMatch first _ _ _ => by simp only [filter, alike.fragment, answer_alike alike first]
  | .and [] | .or [] => by simp only [filter]
  | .and (first :: rest) | .or (first :: rest) => by
      simp only [filter, alike.predicate, filter_alike alike first, predicates_alike alike rest]
  | .not condition => by simp only [filter, alike.predicate, filter_alike alike condition]
  | .hasRows query | .hasNoRows query => by
      simp only [filter, alike.fragment, subQuery_alike alike query]

theorem predicates_alike (alike : left.Alike right) :
    (conditions : List Filter) → predicates left conditions = predicates right conditions
  | [] => by simp only [predicates]
  | first :: rest => by
      simp only [predicates, alike.predicate, filter_alike alike first, predicates_alike alike rest]

theorem sortKeys_alike (alike : left.Alike right) :
    (keys : List SortKey) → sortKeys left keys = sortKeys right keys
  | [] => by simp only [sortKeys]
  | .mk key direction :: rest => by
      simp only [sortKeys, sortKey, alike.fragment, answer_alike alike key,
        sortKeys_alike alike rest]

theorem aggregation_alike (alike : left.Alike right) :
    (grouping : Aggregation) → aggregation left grouping = aggregation right grouping
  | .mk keys none => by simp only [aggregation, fragments_alike alike keys]
  | .mk keys (some having) => by
      simp only [aggregation, fragments_alike alike keys, alike.predicate,
        filter_alike alike having]

theorem projection_alike (alike : left.Alike right) :
    (selected : Projection) → projection left selected = projection right selected
  | .path _ => by simp only [projection, alike.fragment]
  | .function call => by simp only [projection, alike.fragment, function_alike alike call]
  | .properties items => by simp only [projection, projectionItems_alike alike items]
  | .constant _ | .target _ | .selectAll | .countAll => by simp only [projection]

theorem projectionItems_alike (alike : left.Alike right) :
    (items : List NamedProperty) → projectionItems left items = projectionItems right items
  | [] => by simp only [projectionItems]
  | .mk name item :: rest => by
      simp only [projectionItems, projectionItem, alike.fragment, answer_alike alike item,
        projectionItems_alike alike rest]

theorem target_alike (alike : left.Alike right) :
    (found : Target) → target left found = target right found
  | .mk name entity given joined => by simp only [target, joins_alike alike joined]

theorem joins_alike (alike : left.Alike right) :
    (joined : List Join) → joins left joined = joins right joined
  | [] => by simp only [joins]
  | .mk joinType (.mk name entity given within) none :: rest => by
      simp only [joins, join, joinCondition, innerJoins, joins_alike alike within,
        joins_alike alike rest]
  | .mk joinType (.mk name entity given within) (some condition) :: rest => by
      simp only [joins, join, joinCondition, innerJoins, alike.predicate,
        filter_alike alike condition, joins_alike alike within, joins_alike alike rest]

theorem subQuery_alike (alike : left.Alike right) :
    (query : SubQuery) → subQuery left query = subQuery right query
  | .mk queried none selected correlations => by
      simp only [subQuery, conditionStage, alike.fragment, alike.plan, target_alike alike queried,
        projection_alike alike selected]
  | .mk queried (some condition) selected correlations => by
      simp only [subQuery, conditionStage, alike.fragment, alike.predicate, alike.plan,
        target_alike alike queried, filter_alike alike condition, projection_alike alike selected]

end

end BuiltIn

/-! ## Statements -/

section Statements

variable {left right : Resolvers} (alike : left.Alike right)

include alike

theorem Resolvers.Alike.resolve : left.resolve = right.resolve := by
  funext expression output
  rw [Resolvers.resolve, Resolvers.resolve, BuiltIn.answer_alike alike, alike]

theorem Resolvers.Alike.fragmentOf : left.fragmentOf = right.fragmentOf := by
  funext expression
  rw [Resolvers.fragmentOf, Resolvers.fragmentOf, BuiltIn.answer_alike alike, alike.fragment]

theorem Resolvers.Alike.conditionOf : left.conditionOf = right.conditionOf := by
  funext expression
  rw [Resolvers.conditionOf, Resolvers.conditionOf, BuiltIn.answer_alike alike, alike.predicate]

theorem Resolvers.Alike.planOf : left.planOf = right.planOf := by
  funext expression
  rw [Resolvers.planOf, Resolvers.planOf, BuiltIn.answer_alike alike, alike.plan]

theorem WriteDraft.withAssignments_alike (values : List (Path × Expression)) (draft : WriteDraft) :
    withAssignments left draft values = withAssignments right draft values := by
  induction values generalizing draft with
  | nil => rfl
  | cons assignment rest inductionHypothesis =>
      simp only [withAssignments, withAssignment, assigned, alike.fragmentOf, inductionHypothesis]

/-- Registries that choose alike compose every operation alike. -/
theorem Operation.compose_alike (operation : Operation) :
    operation.compose left = operation.compose right := by
  have select : operation.composeSelect left = operation.composeSelect right := by
    simp only [composeSelect, alike.fragmentOf, alike.conditionOf, alike.planOf]
  have write : operation.composeWrite left = operation.composeWrite right := by
    simp only [composeWrite, WriteDraft.withFilter, WriteDraft.withAssignments_alike alike,
      alike.conditionOf]
  simp only [compose, select, write]

end Statements
end ObjectQuery
