import ObjectQuery.Proofs.Allotment.Steps

/-!
# The library's own resolvers go through the events of sketches

Only the declaration of a target has an event of its own, and only a sub-query opens a scope;
all other steps are silent. The proof follows the mutual recursion of the resolvers, with the
events of the parts in the order in which they are resolved. A call must have passed its
check, since a sketch has no place for a second argument.
-/

namespace ObjectQuery
namespace BuiltIn

open Resolution
open Sketch (aliasEvents)

variable {settings : Settings}

/-! ## Silent steps -/

theorem path_silently (found : Path) : (path found).Allots settings [] := by
  have owners : (owningAlias found).Allots settings [] := by
    unfold owningAlias
    split
    · exact qualifyingAlias_allots _
    · exact .afterSilent .context fun context => .pure _
  refine owners.afterSilent fun aliasName => ?_
  split
  · exact .pure _
  · exact .pure _

theorem bindValue_silently (value : Value) : (bindValue value).Allots settings [] :=
  .afterSilent .context fun _ => newReference_allots _ _

theorem bindItems_silently (items : List Value) : (bindItems items).Allots settings [] := by
  induction items with
  | nil => exact .pure _
  | cons item rest inductionHypothesis =>
      exact (bindValue_silently item).afterSilent fun _ =>
        inductionHypothesis.afterSilent fun _ => .pure _

theorem constant_silently (value : Value) : (constant value).Allots settings [] := by
  cases value with
  | null => exact .pure _
  | list items => exact (bindItems_silently items).afterSilent fun _ => .pure _
  | _ => exact bindValue_silently _

theorem spelled_silently (kind : FunctionKind) (arguments : List String) (distinct : Bool) :
    (spelled kind arguments distinct).Allots settings [] := by
  refine .afterSilent .dialect fun dialect => .ofExcept fun refused => ?_
  unfold Dialect.callText
  split <;> simp [ResolutionError.unsupportedOn]

theorem matchedText_silently (value : Expression) :
    (matchedText value).Allots settings [] := by
  unfold matchedText
  split
  · exact .pure _
  · exact .fail (by simp)

theorem matchText_silently (left text : String) (mode : MatchMode) (ignoreCase : Bool) :
    (matchText left text mode ignoreCase).Allots settings [] := by
  have subjects : (matchSubject left ignoreCase).Allots settings [] := by
    unfold matchSubject
    split
    · exact spelled_silently _ _ _
    · exact .pure _
  exact .afterSilent .dialect fun _ => subjects.afterSilent fun _ =>
    (newReference_allots _ _).afterSilent fun _ => .pure _

theorem entityPlan_silently (name : Option String) : (entityPlan name).Allots settings [] := by
  have selects : (selectedTarget name).Allots settings [] := by
    cases name with
    | some name => exact lookup_allots name
    | none =>
        refine .afterSilent .context fun context => ?_
        split
        · exact .pure _
        · exact .fail (by simp)
  exact selects.afterSilent fun _ => .pure _

theorem attributesPlan_silently : attributesPlan.Allots settings [] := by
  refine .afterSilent .context fun context => ?_
  split
  · exact .fail (by simp)
  · split
    · exact .unsupported _
    · exact .afterSilent .dialect fun _ => .pure _

theorem countPlan_silently : countPlan.Allots settings [] :=
  .afterSilent .context fun _ => (spelled_silently _ _ _).afterSilent fun _ => .pure _

theorem constantPlan_silently (value : Value) : (constantPlan value).Allots settings [] := by
  refine .afterSilent .dialect fun dialect => .afterSilent (.ofExcept fun refused => ?_)
    fun _ => .pure _
  unfold Dialect.literalText
  split <;> simp [ResolutionError.unsupportedOn]
  split <;> simp

theorem checkCorrelations_silently (names : List String) :
    (checkCorrelations names).Allots settings [] := by
  induction names with
  | nil => exact .pure _
  | cons name rest inductionHypothesis =>
      have found : (aliasOf name).Allots settings [] :=
        (lookup_allots name).afterSilent fun _ => .pure _
      exact found.afterSilent fun _ => inductionHypothesis

theorem introduceJoined_allots (joinType : JoinType) (target : Target) :
    (introduceJoined joinType target).Allots settings [.declares target] := by
  refine .afterSilent .dialect fun dialect => .afterSilent .context fun context => ?_
  split
  · exact .unsupported _
  · refine (introduce_allots target).thenSilent fun binding => ?_
    split
    · exact .pure _
    · exact .fail (by simp)

/-! ## The nodes -/

mutual

/-- The answer for a node that has passed its check goes through the events of its sketch. -/
theorem answer_allots :
    (node : Expression) → Validation.expression node = .ok () →
      (answer .standard node).Allots settings node.sketch.aliasEvents
  | .path found, _ => by
      simp only [answer, Expression.sketch, aliasEvents]
      exact (path_silently found).answer
  | .constant value, _ => by
      simp only [answer, Expression.sketch, aliasEvents]
      exact (constant_silently value).answer
  | .function call, valid => by
      simp only [Validation.expression] at valid
      simp only [answer, Expression.sketch]
      exact (function_allots call valid).answer
  | .subQuery query, _ => by
      simp only [answer, Expression.sketch]
      exact (subQuery_allots query).answer
  | .filter condition, _ => by
      simp only [answer, Expression.sketch]
      exact filter_allots condition
  | .sort keys, _ => by
      simp only [answer, Expression.sketch, aliasEvents, Sketch.aliasEvents_words,
        Sketch.aliasEvents_separated, List.nil_append]
      exact (sortKeys_allots keys).thenSilent fun _ => .pure _
  | .aggregation grouping, _ => by
      simp only [answer, Expression.sketch]
      exact (aggregation_allots grouping).answer
  | .projection selected, valid => by
      simp only [Validation.expression] at valid
      simp only [answer, Expression.sketch]
      exact (projection_allots selected valid).thenSilent fun _ => .pure _
  | .target found, _ => by
      simp only [answer, Expression.sketch]
      exact (target_allots found).answer
  | .custom node, _ => by
      simp only [answer]
      exact .fail (by simp)

theorem function_allots :
    (call : FunctionCall) → Validation.function call = .ok () →
      (function .standard call).Allots settings call.sketch.aliasEvents
  | .mk kind arguments distinct, valid => by
      simp only [function, FunctionCall.sketch]
      rw [Sketch.aliasEvents_calling]
      · exact (fragments_allots arguments).thenSilent fun _ => spelled_silently _ _ _
      · rw [Expression.length_sketches]
        exact Validation.length_le_one_of_function valid

theorem fragments_allots :
    (nodes : List Expression) →
      (fragments .standard nodes).Allots settings
        ((Expression.sketches nodes).flatMap aliasEvents)
  | [] => by
      simp only [fragments, Expression.sketches, List.flatMap_nil]
      exact .pure _
  | first :: rest => by
      simp only [fragments, Expression.sketches, List.flatMap_cons]
      refine (Resolvers.fragment_allots (answer_allots first)).bind fun text => ?_
      exact (fragments_allots rest).thenSilent fun texts => .pure _

theorem filter_allots :
    (condition : Filter) →
      (filter .standard condition).Allots settings condition.sketch.aliasEvents
  | .isNull operand | .isNotNull operand => by
      simp only [filter, Filter.sketch, aliasEvents, Sketch.aliasEvents_words,
        Sketch.aliasEvents_enclosing, List.append_nil]
      exact (Resolvers.fragment_allots (answer_allots operand)).thenSilent fun text => .pure _
  | .compare left operator right | .isIn left right | .isNotIn left right => by
      simp only [filter, Filter.sketch, aliasEvents, Sketch.aliasEvents_words,
        Sketch.aliasEvents_between, Sketch.aliasEvents_enclosing, List.nil_append]
      refine (Resolvers.fragment_allots (answer_allots left)).bind fun leftText => ?_
      refine ((Resolvers.fragment_allots (answer_allots right)).withHint _).thenSilent
        fun rightText => ?_
      exact .pure _
  | .between operand lower upper => by
      simp only [filter, Filter.sketch, aliasEvents, Sketch.aliasEvents_words,
        Sketch.aliasEvents_enclosing, List.nil_append]
      refine (Resolvers.fragment_allots (answer_allots operand)).bind fun text => ?_
      refine ((Resolvers.fragment_allots (answer_allots lower)).withHint _).bind fun lowerText => ?_
      refine ((Resolvers.fragment_allots (answer_allots upper)).withHint _).thenSilent
        fun upperText => ?_
      exact .pure _
  | .stringMatch left value mode ignoreCase => by
      simp only [filter, Filter.sketch, aliasEvents, Sketch.aliasEvents_words,
        Sketch.aliasEvents_subject, Sketch.aliasEvents_enclosing, Sketch.aliasEvents_pattern,
        List.append_nil]
      refine (matchedText_silently value).afterSilent fun text => ?_
      refine (Resolvers.fragment_allots (answer_allots left)).thenSilent fun leftText => ?_
      exact (matchText_silently _ text mode ignoreCase).answer
  | .and [] | .or [] => by
      simp only [filter, Filter.sketch, Filter.sketches, Sketch.aliasEvents_junction,
        List.flatMap_nil]
      exact .pure _
  | .and (first :: rest) | .or (first :: rest) => by
      simp only [filter, Filter.sketch, Filter.sketches, Sketch.aliasEvents_junction,
        List.flatMap_cons]
      refine (Resolvers.predicate_allots fun _ => filter_allots first).bind fun text => ?_
      exact (predicates_allots rest).thenSilent fun texts => .pure _
  | .not condition => by
      simp only [filter, Filter.sketch, Sketch.aliasEvents_between]
      exact (Resolvers.predicate_allots fun _ => filter_allots condition).thenSilent
        fun text => .pure _
  | .hasRows query | .hasNoRows query => by
      simp only [filter, Filter.sketch, Sketch.aliasEvents_between]
      exact (Resolvers.fragment_allots fun _ => (subQuery_allots query).answer).thenSilent
        fun text => .pure _

theorem predicates_allots :
    (conditions : List Filter) →
      (predicates .standard conditions).Allots settings
        ((Filter.sketches conditions).flatMap aliasEvents)
  | [] => by
      simp only [predicates, Filter.sketches, List.flatMap_nil]
      exact .pure _
  | first :: rest => by
      simp only [predicates, Filter.sketches, List.flatMap_cons]
      refine (Resolvers.predicate_allots fun _ => filter_allots first).bind fun text => ?_
      exact (predicates_allots rest).thenSilent fun texts => .pure _

theorem sortKeys_allots :
    (keys : List SortKey) →
      (sortKeys .standard keys).Allots settings ((SortKey.sketches keys).flatMap aliasEvents)
  | [] => by
      simp only [sortKeys, SortKey.sketches, List.flatMap_nil]
      exact .pure _
  | .mk key direction :: rest => by
      simp only [sortKeys, sortKey, SortKey.sketches, SortKey.sketch, List.flatMap_cons,
        aliasEvents, Sketch.aliasEvents_words, List.append_nil]
      refine .bind ((Resolvers.fragment_allots (answer_allots key)).thenSilent
        fun text => .pure _) fun text => ?_
      exact (sortKeys_allots rest).thenSilent fun texts => .pure _

theorem aggregation_allots :
    (grouping : Aggregation) →
      (aggregation .standard grouping).Allots settings grouping.sketch.aliasEvents
  | .mk keys none => by
      simp only [aggregation, Aggregation.sketch, Filter.sketchAfter, aliasEvents,
        Sketch.aliasEvents_words, Sketch.aliasEvents_separated, List.nil_append, List.append_nil]
      exact (fragments_allots keys).thenSilent fun texts => .pure _
  | .mk keys (some condition) => by
      simp only [aggregation, Aggregation.sketch, Filter.sketchAfter, aliasEvents,
        Sketch.aliasEvents_words, Sketch.aliasEvents_separated, List.nil_append]
      refine (fragments_allots keys).bind fun texts => ?_
      exact (Resolvers.predicate_allots fun _ => filter_allots condition).thenSilent
        fun text => .pure _

theorem projection_allots :
    (selected : Projection) → Validation.projection selected = .ok () →
      (projection .standard selected).Allots settings selected.sketch.aliasEvents
  | .path found, _ => by
      simp only [projection, Projection.sketch, Sketch.aliasEvents_named, aliasEvents]
      exact (Resolvers.fragment_allots fun _ => (path_silently found).answer).thenSilent
        fun text => .pure _
  | .function call, valid => by
      simp only [Validation.projection] at valid
      simp only [projection, Projection.sketch]
      exact (Resolvers.fragment_allots fun _ => (function_allots call valid).answer).thenSilent
        fun text => .pure _
  | .constant value, _ => by
      simp only [projection, Projection.sketch, aliasEvents]
      exact constantPlan_silently value
  | .target name, _ => by
      simp only [projection, Projection.sketch, aliasEvents]
      exact entityPlan_silently name
  | .properties items, _ => by
      simp only [projection, Projection.sketch, Sketch.aliasEvents_separated]
      exact (projectionItems_allots items).thenSilent fun columns =>
        .afterSilent .dialect fun dialect => .pure _
  | .selectAll, _ => by
      simp only [projection, Projection.sketch, aliasEvents]
      exact attributesPlan_silently
  | .countAll, _ => by
      simp only [projection, Projection.sketch, aliasEvents]
      exact countPlan_silently

theorem projectionItems_allots :
    (items : List NamedProperty) →
      (projectionItems .standard items).Allots settings
        ((NamedProperty.sketches items).flatMap aliasEvents)
  | [] => by
      simp only [projectionItems, NamedProperty.sketches, List.flatMap_nil]
      exact .pure _
  | .mk name item :: rest => by
      simp only [projectionItems, projectionItem, NamedProperty.sketches, NamedProperty.sketch,
        List.flatMap_cons, Sketch.aliasEvents_named]
      refine .bind ((Resolvers.fragment_allots (answer_allots item)).thenSilent
        fun text => .pure _) fun column => ?_
      exact (projectionItems_allots rest).thenSilent fun columns => .pure _

theorem target_allots :
    (found : Target) → (target .standard found).Allots settings found.sketch.aliasEvents
  | .mk name entity given joined => by
      simp only [target, Target.sketch, aliasEvents]
      refine (introduce_allots _).bind fun binding => ?_
      exact (joins_allots joined).thenSilent fun text => .pure _

theorem joins_allots :
    (joined : List Join) →
      (joins .standard joined).Allots settings (Join.sketches joined).aliasEvents
  | [] => by
      simp only [joins, Join.sketches, Sketch.aliasEvents_words]
      exact .pure _
  | .mk joinType (.mk name entity given within) condition :: rest => by
      simp only [joins, join, innerJoins, Join.sketches, Join.sketch, Target.joinSketch,
        aliasEvents, Sketch.aliasEvents_words, List.nil_append]
      refine .bind ?_ fun text => (joins_allots rest).thenSilent fun texts => .pure _
      refine (introduceJoined_allots joinType _).bind fun binding => ?_
      refine (joinCondition_allots condition).bind fun text => ?_
      exact (joins_allots within).thenSilent fun inner => .pure _

theorem joinCondition_allots :
    (condition : Option Filter) →
      (joinCondition .standard condition).Allots settings
        (Filter.sketchAfter " ON " condition).aliasEvents
  | none => by
      simp only [joinCondition, Filter.sketchAfter, Sketch.aliasEvents_words]
      exact .pure _
  | some condition => by
      simp only [joinCondition, Filter.sketchAfter, aliasEvents, Sketch.aliasEvents_words,
        List.nil_append]
      exact (Resolvers.predicate_allots fun _ => filter_allots condition).thenSilent
        fun text => .pure _

theorem subQuery_allots :
    (query : SubQuery) → (subQuery .standard query).Allots settings query.sketch.aliasEvents
  | .mk queried condition selected correlations => by
      simp only [subQuery, SubQuery.sketch, aliasEvents]
      refine .nested ?_
      refine (checkCorrelations_silently correlations).afterSilent fun _ => ?_
      refine (SelectDraft.withTarget_allots
        (Resolvers.fragment_allots fun _ => (target_allots queried).answer) _).bind
          fun draft => ?_
      refine (conditionStage_allots condition draft).bind fun draft => ?_
      refine (SelectDraft.withProjection_allots (Resolvers.plan_allots fun valid =>
        (projection_allots selected (by
          simpa only [Expression.validate, Validation.expression] using valid)).thenSilent
            fun plan => .pure _) draft).thenSilent fun draft => ?_
      exact draft.assemble_allots.afterSilent fun _ => .pure _

theorem conditionStage_allots :
    (condition : Option Filter) → (draft : SelectDraft) →
      (conditionStage .standard draft condition).Allots settings
        (Filter.sketchAfter " WHERE " condition).aliasEvents
  | none, draft => by
      simp only [conditionStage, Filter.sketchAfter, Sketch.aliasEvents_words]
      exact .pure _
  | some condition, draft => by
      simp only [conditionStage, Filter.sketchAfter, aliasEvents, Sketch.aliasEvents_words,
        List.nil_append]
      exact SelectDraft.withFilter_allots
        (Resolvers.predicate_allots fun _ => filter_allots condition) draft

end

end BuiltIn
end ObjectQuery
