import ObjectQuery.Proofs.Vacuity.Basic
import ObjectQuery.Proofs.Vacuity.Steps

/-!
# The library's own resolvers refuse vacuous conditions

A vacuous condition is handed on as such only to the node right around it, and every node
that could drop it there refuses it instead. So the text of a node is there only if no
vacuous condition occurs in it. The proof follows the mutual recursion of the resolvers; each
case adds up what occurs in the parts, in the order in which they are resolved.
-/

namespace ObjectQuery
namespace BuiltIn

open Resolution

variable {settings : Settings}

/-! ## What meets no condition -/

theorem path_silent (found : Path) : (path found).Refuses settings false := by
  have owners : (owningAlias found).Refuses settings false := by
    unfold owningAlias
    split
    · exact qualifyingAlias_silent _
    · exact .afterSilent .context fun context => .pure _
  refine owners.afterSilent fun aliasName => ?_
  split
  · exact .pure _
  · exact .pure _

theorem bindValue_silent (value : Value) : (bindValue value).Refuses settings false :=
  .afterSilent .context fun _ => newReference_silent _ _

theorem bindItems_silent (items : List Value) : (bindItems items).Refuses settings false := by
  induction items with
  | nil => exact .pure _
  | cons item rest inductionHypothesis =>
      exact (bindValue_silent item).afterSilent fun _ =>
        inductionHypothesis.afterSilent fun _ => .pure _

theorem constant_silent (value : Value) : (constant value).Refuses settings false := by
  cases value with
  | null => exact .pure _
  | list items => exact (bindItems_silent items).afterSilent fun _ => .pure _
  | _ => exact bindValue_silent _

theorem spelled_silent (kind : FunctionKind) (arguments : List String) (distinct : Bool) :
    (spelled kind arguments distinct).Refuses settings false := by
  refine .afterSilent .dialect fun dialect => .ofExcept ?_
  unfold Dialect.callText
  split <;> simp [ResolutionError.unsupportedOn]

theorem matchText_silent (left text : String) (mode : MatchMode) (ignoreCase : Bool) :
    (matchText left text mode ignoreCase).Refuses settings false := by
  have subjects : (matchSubject left ignoreCase).Refuses settings false := by
    unfold matchSubject
    split
    · exact spelled_silent _ _ _
    · exact .pure _
  exact .afterSilent .dialect fun _ => subjects.afterSilent fun _ =>
    (newReference_silent _ _).afterSilent fun _ => .pure _

/-- Only a constant has a text to look for. -/
theorem matchedText_refuses (value : Expression) :
    (matchedText value).Refuses settings value.hasVacuous := by
  cases value with
  | constant value =>
      rw [Expression.hasVacuous]
      unfold matchedText
      split
      · exact .pure _
      · exact .fail (by simp)
  | _ => exact .fail (by simp)

theorem entityPlan_silent (name : Option String) : (entityPlan name).Refuses settings false := by
  have selects : (selectedTarget name).Refuses settings false := by
    cases name with
    | some name => exact lookup_silent name
    | none =>
        refine .afterSilent .context fun context => ?_
        split
        · exact .pure _
        · exact .fail (by simp)
  exact selects.afterSilent fun _ => .pure _

theorem attributesPlan_silent : attributesPlan.Refuses settings false := by
  refine .afterSilent .context fun context => ?_
  split
  · exact .fail (by simp)
  · split
    · exact .unsupported _
    · exact .afterSilent .dialect fun _ => .pure _

theorem countPlan_silent : countPlan.Refuses settings false :=
  .afterSilent .context fun _ => (spelled_silent _ _ _).afterSilent fun _ => .pure _

theorem constantPlan_silent (value : Value) : (constantPlan value).Refuses settings false := by
  refine .afterSilent .dialect fun dialect => .afterSilent (.ofExcept ?_) fun _ => .pure _
  unfold Dialect.literalText
  split <;> simp [ResolutionError.unsupportedOn]
  split <;> simp

theorem introduceJoined_silent (joinType : JoinType) (target : Target) :
    (introduceJoined joinType target).Refuses settings false := by
  refine .afterSilent .dialect fun dialect => .afterSilent .context fun context => ?_
  split
  · exact .unsupported _
  · refine (introduce_silent target).afterSilent fun binding => ?_
    split
    · exact .pure _
    · exact .fail (by simp)

theorem checkCorrelations_silent (names : List String) :
    (checkCorrelations names).Refuses settings false := by
  induction names with
  | nil => exact .pure _
  | cons name rest inductionHypothesis =>
      have found : (aliasOf name).Refuses settings false :=
        (lookup_silent name).afterSilent fun _ => .pure _
      exact found.afterSilent fun _ => inductionHypothesis

/-! ## The nodes -/

mutual

/-- The answer for a node tells whether a vacuous condition occurs in it, and stands for one
only if the node itself is vacuous. -/
theorem answer_tells :
    (expression : Expression) →
      (answer .standard expression).Tells settings Resolved.isEmptyPredicate
        expression.hasVacuous
  | .path found => by
      simp only [Expression.hasVacuous, answer]
      exact (path_silent found).answer
  | .constant value => by
      simp only [Expression.hasVacuous, answer]
      exact (constant_silent value).answer
  | .function call => by
      simp only [Expression.hasVacuous, answer]
      exact (function_refuses call).answer
  | .subQuery query => by
      simp only [Expression.hasVacuous, answer]
      exact (subQuery_refuses query).answer
  | .filter condition => by
      simp only [Expression.hasVacuous, answer]
      exact filter_tells condition
  | .sort keys => by
      simp only [Expression.hasVacuous, answer]
      exact (sortKeys_refuses keys).thenSilent fun _ => .pure _
  | .aggregation grouping => by
      simp only [Expression.hasVacuous, answer]
      exact (aggregation_refuses grouping).answer
  | .projection selected => by
      simp only [Expression.hasVacuous, answer]
      exact (projection_refuses selected).thenSilent fun _ => .pure _
  | .target found => by
      simp only [Expression.hasVacuous, answer]
      exact (target_refuses found).answer
  | .custom node => by
      simp only [answer]
      exact .fail (by simp)

theorem function_refuses :
    (call : FunctionCall) → (function .standard call).Refuses settings call.hasVacuous
  | .mk kind arguments distinct => by
      simp only [FunctionCall.hasVacuous, function]
      exact (fragments_refuse arguments).thenSilent fun _ => spelled_silent _ _ _

theorem fragments_refuse :
    (expressions : List Expression) →
      (fragments .standard expressions).Refuses settings (Expression.haveVacuous expressions)
  | [] => by
      simp only [Expression.haveVacuous, fragments]
      exact .pure _
  | first :: rest => by
      simp only [Expression.haveVacuous, fragments]
      refine (Resolvers.fragment_refuses (answer_tells first)).bind fun text => ?_
      exact (fragments_refuse rest).thenSilent fun texts => .pure _

theorem filter_tells :
    (condition : Filter) →
      (filter .standard condition).Tells settings Resolved.isEmptyPredicate condition.hasVacuous
  | .isNull operand | .isNotNull operand => by
      simp only [Filter.hasVacuous, filter]
      exact (Resolvers.fragment_refuses (answer_tells operand)).thenSilent fun text => .pure _
  | .compare left operator right | .isIn left right | .isNotIn left right => by
      simp only [Filter.hasVacuous, filter]
      refine (Resolvers.fragment_refuses (answer_tells left)).bind fun leftText => ?_
      refine ((Resolvers.fragment_refuses (answer_tells right)).withHint _).thenSilent
        fun rightText => ?_
      exact .pure _
  | .between operand lower upper => by
      simp only [Filter.hasVacuous, filter]
      refine (Resolvers.fragment_refuses (answer_tells operand)).bind fun text => ?_
      refine ((Resolvers.fragment_refuses (answer_tells lower)).withHint _).bind fun lowerText => ?_
      refine ((Resolvers.fragment_refuses (answer_tells upper)).withHint _).thenSilent
        fun upperText => ?_
      exact .pure _
  | .stringMatch left value mode ignoreCase => by
      simp only [Filter.hasVacuous, filter]
      refine (matchedText_refuses value).bind fun text => ?_
      refine (Resolvers.fragment_refuses (answer_tells left)).thenSilent fun leftText => ?_
      exact (matchText_silent _ text mode ignoreCase).answer
  | .and [] | .or [] => by
      simp only [Filter.hasVacuous, filter]
      exact .pure _
  | .and (first :: rest) | .or (first :: rest) => by
      simp only [Filter.hasVacuous, filter]
      refine (Resolvers.predicate_refuses (filter_tells first)).bind fun text => ?_
      exact (predicates_refuse rest).thenSilent fun texts => .pure _
  | .not condition => by
      simp only [Filter.hasVacuous, filter]
      exact (Resolvers.predicate_refuses (filter_tells condition)).thenSilent fun text => .pure _
  | .hasRows query | .hasNoRows query => by
      simp only [Filter.hasVacuous, filter]
      exact (Resolvers.fragment_refuses (subQuery_refuses query).answer).thenSilent
        fun text => .pure _

theorem predicates_refuse :
    (conditions : List Filter) →
      (predicates .standard conditions).Refuses settings (Filter.haveVacuous conditions)
  | [] => by
      simp only [Filter.haveVacuous, predicates]
      exact .pure _
  | first :: rest => by
      simp only [Filter.haveVacuous, predicates]
      refine (Resolvers.predicate_refuses (filter_tells first)).bind fun text => ?_
      exact (predicates_refuse rest).thenSilent fun texts => .pure _

theorem sortKeys_refuses :
    (keys : List SortKey) → (sortKeys .standard keys).Refuses settings (SortKey.haveVacuous keys)
  | [] => by
      simp only [SortKey.haveVacuous, sortKeys]
      exact .pure _
  | .mk key direction :: rest => by
      simp only [SortKey.haveVacuous, SortKey.hasVacuous, sortKeys, sortKey]
      refine .bind ((Resolvers.fragment_refuses (answer_tells key)).thenSilent fun text => .pure _)
        fun text => ?_
      exact (sortKeys_refuses rest).thenSilent fun texts => .pure _

theorem aggregation_refuses :
    (grouping : Aggregation) →
      (aggregation .standard grouping).Refuses settings grouping.hasVacuous
  | .mk keys none => by
      simp only [Aggregation.hasVacuous, Filter.hasVacuousIfAny, aggregation]
      exact (fragments_refuse keys).bind fun texts => .pure _
  | .mk keys (some condition) => by
      simp only [Aggregation.hasVacuous, Filter.hasVacuousIfAny, aggregation]
      refine (fragments_refuse keys).bind fun texts => ?_
      exact (Resolvers.predicate_refuses (filter_tells condition)).thenSilent fun text => .pure _

theorem projection_refuses :
    (selected : Projection) →
      (projection .standard selected).Refuses settings selected.hasVacuous
  | .path found => by
      simp only [Projection.hasVacuous, projection]
      exact (Resolvers.fragment_refuses (path_silent found).answer).thenSilent fun text => .pure _
  | .function call => by
      simp only [Projection.hasVacuous, projection]
      exact (Resolvers.fragment_refuses (function_refuses call).answer).thenSilent
        fun text => .pure _
  | .constant value => by
      simp only [Projection.hasVacuous, projection]
      exact constantPlan_silent value
  | .target name => by
      simp only [Projection.hasVacuous, projection]
      exact entityPlan_silent name
  | .properties items => by
      simp only [Projection.hasVacuous, projection]
      exact (projectionItems_refuse items).thenSilent fun columns =>
        .afterSilent .dialect fun dialect => .pure _
  | .selectAll => by
      simp only [Projection.hasVacuous, projection]
      exact attributesPlan_silent
  | .countAll => by
      simp only [Projection.hasVacuous, projection]
      exact countPlan_silent

theorem projectionItems_refuse :
    (items : List NamedProperty) →
      (projectionItems .standard items).Refuses settings (NamedProperty.haveVacuous items)
  | [] => by
      simp only [NamedProperty.haveVacuous, projectionItems]
      exact .pure _
  | .mk name item :: rest => by
      simp only [NamedProperty.haveVacuous, NamedProperty.hasVacuous, projectionItems,
        projectionItem]
      refine .bind ((Resolvers.fragment_refuses (answer_tells item)).thenSilent fun text => .pure _)
        fun column => ?_
      exact (projectionItems_refuse rest).thenSilent fun columns => .pure _

theorem target_refuses :
    (found : Target) → (target .standard found).Refuses settings found.hasVacuous
  | .mk name entity given joined => by
      simp only [Target.hasVacuous, target]
      refine (introduce_silent _).afterSilent fun binding => ?_
      exact (joins_refuse joined).thenSilent fun text => .pure _

theorem joins_refuse :
    (joined : List Join) → (joins .standard joined).Refuses settings (Join.haveVacuous joined)
  | [] => by
      simp only [Join.haveVacuous, joins]
      exact .pure _
  | .mk joinType (.mk name entity given within) none :: rest => by
      simp only [Join.haveVacuous, Join.hasVacuous, Filter.hasVacuousIfAny, Target.hasVacuous,
        Bool.false_or, joins, join, joinCondition, innerJoins]
      refine .bind ?_ fun text => (joins_refuse rest).thenSilent fun texts => .pure _
      refine (introduceJoined_silent joinType _).afterSilent fun binding => ?_
      refine .afterSilent (.pure _) fun text => ?_
      exact (joins_refuse within).thenSilent fun inner => .pure _
  | .mk joinType (.mk name entity given within) (some condition) :: rest => by
      simp only [Join.haveVacuous, Join.hasVacuous, Filter.hasVacuousIfAny, Target.hasVacuous,
        joins, join, joinCondition, innerJoins]
      refine .bind ?_ fun text => (joins_refuse rest).thenSilent fun texts => .pure _
      refine (introduceJoined_silent joinType _).afterSilent fun binding => ?_
      refine .bind ((Resolvers.predicate_refuses (filter_tells condition)).thenSilent
        fun text => .pure _) fun text => ?_
      exact (joins_refuse within).thenSilent fun inner => .pure _

theorem subQuery_refuses :
    (query : SubQuery) → (subQuery .standard query).Refuses settings query.hasVacuous
  | .mk queried condition selected correlations => by
      simp only [SubQuery.hasVacuous, subQuery]
      refine .afterSilent .context fun context => .inChild ?_ _
      refine (checkCorrelations_silent correlations).afterSilent fun _ => ?_
      refine (SelectDraft.withTarget_refuses
        (Resolvers.fragment_refuses (target_refuses queried).answer) _).bind fun draft => ?_
      refine (conditionStage_refuses condition draft).bind fun draft => ?_
      refine (SelectDraft.withProjection_refuses (Resolvers.plan_refuses
        ((projection_refuses selected).thenSilent fun plan => .pure _)) draft).thenSilent
          fun draft => ?_
      exact .afterSilent (.ofExcept (SelectDraft.assemble_ne_emptyPredicate _)) fun _ => .pure _

theorem conditionStage_refuses :
    (condition : Option Filter) → (draft : SelectDraft) →
      (conditionStage .standard draft condition).Refuses settings
        (Filter.hasVacuousIfAny condition)
  | none, draft => by
      simp only [Filter.hasVacuousIfAny, conditionStage]
      exact .pure _
  | some condition, draft => by
      simp only [Filter.hasVacuousIfAny, conditionStage]
      exact SelectDraft.withFilter_refuses
        (Resolvers.predicate_refuses (filter_tells condition)) draft

end

end BuiltIn
end ObjectQuery
