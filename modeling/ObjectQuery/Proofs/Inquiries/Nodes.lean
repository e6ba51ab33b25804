import ObjectQuery.Proofs.Inquiries.Steps
import ObjectQuery.Resolution.BuiltIn

/-!
# The library's own resolvers descend through the inquiries

The proof follows the mutual recursion of the resolvers, each case with the inquiries about its
parts in the order in which they are resolved. Only a sub-query goes one level deeper, and its
target is asked about there. Only a string match needs to know that it has passed its own
check, since it finds fault with a pattern that is no text.
-/

namespace ObjectQuery
namespace BuiltIn

open Resolution

variable {settings : Settings} {watchers : List Resolver}

/-! ## What asks nothing -/

theorem path_level (found : Path) : (path found).StaysLevel settings := by
  have owners : (owningAlias found).StaysLevel settings := by
    unfold owningAlias
    split
    · exact qualifyingAlias_level _
    · exact .bind .context fun context => .pure _
  refine owners.bind fun aliasName => ?_
  split
  · exact .pure _
  · exact .pure _

theorem bindValue_level (value : Value) : (bindValue value).StaysLevel settings :=
  .bind .context fun _ => newReference_level _ _

theorem bindItems_level (items : List Value) : (bindItems items).StaysLevel settings := by
  induction items with
  | nil => exact .pure _
  | cons item rest inductionHypothesis =>
      exact (bindValue_level item).bind fun _ => inductionHypothesis.bind fun _ => .pure _

theorem constant_level (value : Value) : (constant value).StaysLevel settings := by
  cases value with
  | null => exact .pure _
  | list items => exact (bindItems_level items).bind fun _ => .pure _
  | _ => exact bindValue_level _

theorem spelled_level (kind : FunctionKind) (arguments : List String) (distinct : Bool) :
    (spelled kind arguments distinct).StaysLevel settings := by
  refine .bind .dialect fun dialect => .ofExcept fun error failed => ?_
  unfold Dialect.callText at failed
  split at failed
  · cases failed
  · cases failed
    rfl

theorem matchText_level (left text : String) (mode : MatchMode) (ignoreCase : Bool) :
    (matchText left text mode ignoreCase).StaysLevel settings := by
  have subjects : (matchSubject left ignoreCase).StaysLevel settings := by
    unfold matchSubject
    split
    · exact spelled_level _ _ _
    · exact .pure _
  exact .bind .dialect fun _ => subjects.bind fun _ => (newReference_level _ _).bind fun _ =>
    .pure _

/-- A pattern that has passed its check has a text. -/
theorem matchedText_level
    {value : Expression}
    (valid : Validation.matchedValue value = .ok ()) :
    (matchedText value).StaysLevel settings := by
  unfold Validation.matchedValue at valid
  split at valid
  · exact .pure _
  · cases valid
  · cases valid

theorem entityPlan_level (name : Option String) : (entityPlan name).StaysLevel settings := by
  have selects : (selectedTarget name).StaysLevel settings := by
    cases name with
    | some name => exact lookup_level name
    | none =>
        refine .bind .context fun context => ?_
        split
        · exact .pure _
        · exact .fail rfl
  exact selects.bind fun _ => .pure _

theorem attributesPlan_level : attributesPlan.StaysLevel settings := by
  refine .bind .context fun context => ?_
  split
  · exact .fail rfl
  · split
    · exact .unsupported _
    · exact .bind .dialect fun _ => .pure _

theorem countPlan_level : countPlan.StaysLevel settings :=
  .bind .context fun _ => (spelled_level _ _ _).bind fun _ => .pure _

theorem constantPlan_level (value : Value) : (constantPlan value).StaysLevel settings := by
  refine .bind .dialect fun dialect => .bind (.ofExcept fun error failed => ?_) fun _ => .pure _
  have unsupported (construct : String) :
      (ResolutionError.unsupportedOn dialect.platform construct).isOfDescent = false := rfl
  unfold Dialect.literalText at failed
  split at failed
  all_goals first
    | cases failed; exact unsupported _
    | split at failed
      · cases failed
      · cases failed; exact unsupported _
    | cases failed

theorem introduceJoined_level (joinType : JoinType) (target : Target) :
    (introduceJoined joinType target).StaysLevel settings := by
  refine .bind .dialect fun dialect => .bind .context fun context => ?_
  split
  · exact .unsupported _
  · refine (introduce_level target).bind fun binding => ?_
    split
    · exact .pure _
    · exact .fail rfl

theorem checkCorrelations_level (names : List String) :
    (checkCorrelations names).StaysLevel settings := by
  induction names with
  | nil => exact .pure _
  | cons name rest inductionHypothesis =>
      have found : (aliasOf name).StaysLevel settings := (lookup_level name).bind fun _ => .pure _
      exact found.bind fun _ => inductionHypothesis

/-! ## The nodes -/

mutual

/-- The answer for a node that has passed its check descends through the inquiries about its
parts. -/
theorem answer_descends {depth : Nat} :
    (expression : Expression) → expression.validate = .ok () →
      Descends (answer (.watched watchers) expression) (answer .standard expression) settings
        watchers depth (expression.inquiries depth)
  | .path found, _ => by
      simp only [Expression.inquiries, answer]
      exact (Descends.ofLevel (path_level found)).answer
  | .constant value, _ => by
      simp only [Expression.inquiries, answer]
      exact (Descends.ofLevel (constant_level value)).answer
  | .function call, _ => by
      simp only [Expression.inquiries, answer]
      exact (function_descends call).answer
  | .subQuery query, _ => by
      simp only [Expression.inquiries, answer]
      exact (subQuery_descends query).answer
  | .filter condition, valid => by
      simp only [Expression.inquiries, answer]
      exact filter_descends condition valid
  | .sort keys, _ => by
      simp only [Expression.inquiries, answer]
      exact (sortKeys_descends keys).thenLevel fun _ => .pure _
  | .aggregation grouping, _ => by
      simp only [Expression.inquiries, answer]
      exact (aggregation_descends grouping).answer
  | .projection selected, _ => by
      simp only [Expression.inquiries, answer]
      exact (projection_descends selected).thenLevel fun _ => .pure _
  | .target found, _ => by
      simp only [Expression.inquiries, answer]
      exact (target_descends found).answer
  | .custom node, _ => by
      simp only [answer]
      exact .fail rfl

theorem function_descends {depth : Nat} :
    (call : FunctionCall) →
      Descends (function (.watched watchers) call) (function .standard call) settings watchers
        depth (call.inquiries depth)
  | .mk kind arguments distinct => by
      simp only [FunctionCall.inquiries, function]
      exact (fragments_descend arguments).thenLevel fun _ => spelled_level _ _ _

theorem fragments_descend {depth : Nat} :
    (expressions : List Expression) →
      Descends (fragments (.watched watchers) expressions) (fragments .standard expressions)
        settings watchers depth (Expression.eachInquiries depth expressions)
  | [] => by
      simp only [Expression.eachInquiries, fragments]
      exact .pure _
  | first :: rest => by
      simp only [Expression.eachInquiries, fragments]
      refine (Resolvers.fragment_descends (answer_descends first)).bind fun text => ?_
      exact (fragments_descend rest).thenLevel fun texts => .pure _

theorem filter_descends {depth : Nat} :
    (condition : Filter) → (Expression.filter condition).validate = .ok () →
      Descends (filter (.watched watchers) condition) (filter .standard condition) settings
        watchers depth (condition.inquiries depth)
  | .isNull operand, _ | .isNotNull operand, _ => by
      simp only [Filter.inquiries, filter]
      exact (Resolvers.fragment_descends (answer_descends operand)).thenLevel fun text => .pure _
  | .compare left operator right, _ | .isIn left right, _ | .isNotIn left right, _ => by
      simp only [Filter.inquiries, filter]
      refine (Resolvers.fragment_descends (answer_descends left)).bind fun leftText => ?_
      refine ((Resolvers.fragment_descends (answer_descends right)).withHint _).thenLevel
        fun rightText => ?_
      exact .pure _
  | .between operand lower upper, _ => by
      simp only [Filter.inquiries, filter]
      refine (Resolvers.fragment_descends (answer_descends operand)).bind fun text => ?_
      refine ((Resolvers.fragment_descends (answer_descends lower)).withHint _).bind
        fun lowerText => ?_
      refine ((Resolvers.fragment_descends (answer_descends upper)).withHint _).thenLevel
        fun upperText => ?_
      exact .pure _
  | .stringMatch left value mode ignoreCase, valid => by
      simp only [Expression.validate, Validation.expression, Validation.filter,
        Validation.andThen_ok_iff] at valid
      simp only [Filter.inquiries, filter]
      refine .afterLevel (matchedText_level valid.2.2) fun text => ?_
      refine (Resolvers.fragment_descends (answer_descends left)).thenLevel fun leftText => ?_
      exact (matchText_level _ text mode ignoreCase).bind fun written => .pure _
  | .and [], _ | .or [], _ => by
      simp only [Filter.inquiries, Filter.eachInquiries, filter]
      exact .pure _
  | .and (first :: rest), _ | .or (first :: rest), _ => by
      simp only [Filter.inquiries, Filter.eachInquiries, filter]
      refine (Resolvers.predicate_descends (filter_descends first)).bind fun text => ?_
      exact (predicates_descend rest).thenLevel fun texts => .pure _
  | .not condition, _ => by
      simp only [Filter.inquiries, filter]
      exact (Resolvers.predicate_descends (filter_descends condition)).thenLevel
        fun text => .pure _
  | .hasRows query, _ | .hasNoRows query, _ => by
      simp only [Filter.inquiries, filter]
      exact (Resolvers.fragment_descends fun _ => (subQuery_descends query).answer).thenLevel
        fun text => .pure _

theorem predicates_descend {depth : Nat} :
    (conditions : List Filter) →
      Descends (predicates (.watched watchers) conditions) (predicates .standard conditions)
        settings watchers depth (Filter.eachInquiries depth conditions)
  | [] => by
      simp only [Filter.eachInquiries, predicates]
      exact .pure _
  | first :: rest => by
      simp only [Filter.eachInquiries, predicates]
      refine (Resolvers.predicate_descends (filter_descends first)).bind fun text => ?_
      exact (predicates_descend rest).thenLevel fun texts => .pure _

theorem sortKeys_descends {depth : Nat} :
    (keys : List SortKey) →
      Descends (sortKeys (.watched watchers) keys) (sortKeys .standard keys) settings watchers
        depth (SortKey.eachInquiries depth keys)
  | [] => by
      simp only [SortKey.eachInquiries, sortKeys]
      exact .pure _
  | .mk key direction :: rest => by
      simp only [SortKey.eachInquiries, SortKey.inquiries, sortKeys, sortKey]
      refine .bind ((Resolvers.fragment_descends (answer_descends key)).thenLevel
        fun text => .pure _) fun text => ?_
      exact (sortKeys_descends rest).thenLevel fun texts => .pure _

theorem aggregation_descends {depth : Nat} :
    (grouping : Aggregation) →
      Descends (aggregation (.watched watchers) grouping) (aggregation .standard grouping)
        settings watchers depth (grouping.inquiries depth)
  | .mk keys none => by
      simp only [Aggregation.inquiries, Filter.inquiriesIfAny, aggregation]
      exact (fragments_descend keys).bind fun texts => .pure _
  | .mk keys (some condition) => by
      simp only [Aggregation.inquiries, Filter.inquiriesIfAny, aggregation]
      refine (fragments_descend keys).bind fun texts => ?_
      exact (Resolvers.predicate_descends (filter_descends condition)).thenLevel
        fun text => .pure _

theorem projection_descends {depth : Nat} :
    (selected : Projection) →
      Descends (projection (.watched watchers) selected) (projection .standard selected) settings
        watchers depth (selected.inquiries depth)
  | .path found => by
      simp only [Projection.inquiries, projection]
      exact (Resolvers.fragment_descends fun _ =>
        (Descends.ofLevel (path_level found)).answer).thenLevel fun text => .pure _
  | .function call => by
      simp only [Projection.inquiries, projection]
      exact (Resolvers.fragment_descends fun _ => (function_descends call).answer).thenLevel
        fun text => .pure _
  | .constant value => by
      simp only [Projection.inquiries, projection]
      exact .ofLevel (constantPlan_level value)
  | .target name => by
      simp only [Projection.inquiries, projection]
      exact .ofLevel (entityPlan_level name)
  | .properties items => by
      simp only [Projection.inquiries, projection]
      exact (projectionItems_descend items).thenLevel fun columns =>
        .bind .dialect fun dialect => .pure _
  | .selectAll => by
      simp only [Projection.inquiries, projection]
      exact .ofLevel attributesPlan_level
  | .countAll => by
      simp only [Projection.inquiries, projection]
      exact .ofLevel countPlan_level

theorem projectionItems_descend {depth : Nat} :
    (items : List NamedProperty) →
      Descends (projectionItems (.watched watchers) items) (projectionItems .standard items)
        settings watchers depth (NamedProperty.eachInquiries depth items)
  | [] => by
      simp only [NamedProperty.eachInquiries, projectionItems]
      exact .pure _
  | .mk name item :: rest => by
      simp only [NamedProperty.eachInquiries, NamedProperty.inquiries, projectionItems,
        projectionItem]
      refine .bind ((Resolvers.fragment_descends (answer_descends item)).thenLevel
        fun text => .pure _) fun column => ?_
      exact (projectionItems_descend rest).thenLevel fun columns => .pure _

theorem target_descends {depth : Nat} :
    (found : Target) →
      Descends (target (.watched watchers) found) (target .standard found) settings watchers
        depth (found.inquiries depth)
  | .mk name entity given joined => by
      simp only [Target.inquiries, target]
      refine .afterLevel (introduce_level _) fun binding => ?_
      exact (joins_descend joined).thenLevel fun text => .pure _

theorem joins_descend {depth : Nat} :
    (joined : List Join) →
      Descends (joins (.watched watchers) joined) (joins .standard joined) settings watchers
        depth (Join.eachInquiries depth joined)
  | [] => by
      simp only [Join.eachInquiries, joins]
      exact .pure _
  | .mk joinType (.mk name entity given within) none :: rest => by
      simp only [Join.eachInquiries, Join.inquiries, Filter.inquiriesIfAny, Target.inquiries,
        List.nil_append, joins, join, joinCondition, innerJoins]
      refine .bind ?_ fun text => (joins_descend rest).thenLevel fun texts => .pure _
      refine .afterLevel (introduceJoined_level joinType _) fun binding => ?_
      refine .afterLevel (.pure _) fun text => ?_
      exact (joins_descend within).thenLevel fun inner => .pure _
  | .mk joinType (.mk name entity given within) (some condition) :: rest => by
      simp only [Join.eachInquiries, Join.inquiries, Filter.inquiriesIfAny, Target.inquiries,
        joins, join, joinCondition, innerJoins]
      refine .bind ?_ fun text => (joins_descend rest).thenLevel fun texts => .pure _
      refine .afterLevel (introduceJoined_level joinType _) fun binding => ?_
      refine .bind ((Resolvers.predicate_descends (filter_descends condition)).thenLevel
        fun text => .pure _) fun text => ?_
      exact (joins_descend within).thenLevel fun inner => .pure _

theorem subQuery_descends {depth : Nat} :
    (query : SubQuery) →
      Descends (subQuery (.watched watchers) query) (subQuery .standard query) settings watchers
        depth (query.inquiries depth)
  | .mk queried condition selected correlations => by
      simp only [SubQuery.inquiries, subQuery]
      refine .afterLevel .context fun context => .inChild ?_ ⟨_, List.mem_cons_self, rfl⟩ _
      refine .afterLevel (checkCorrelations_level correlations) fun _ => ?_
      refine (SelectDraft.withTarget_descends
        (Resolvers.fragment_descends fun _ => (target_descends queried).answer) _).bind
          fun draft => ?_
      refine (conditionStage_descends condition draft).bind fun draft => ?_
      refine (SelectDraft.withProjection_descends (Resolvers.plan_descends fun _ =>
        (projection_descends selected).thenLevel fun plan => .pure _) draft).thenLevel
          fun draft => ?_
      exact draft.assemble_level.bind fun select => .pure _

theorem conditionStage_descends {depth : Nat} :
    (condition : Option Filter) → (draft : SelectDraft) →
      Descends (conditionStage (.watched watchers) draft condition)
        (conditionStage .standard draft condition) settings watchers depth
        (Filter.inquiriesIfAny depth condition)
  | none, draft => by
      simp only [Filter.inquiriesIfAny, conditionStage]
      exact .pure _
  | some condition, draft => by
      simp only [Filter.inquiriesIfAny, conditionStage]
      exact SelectDraft.withFilter_descends
        (Resolvers.predicate_descends (filter_descends condition)) draft

end

end BuiltIn
end ObjectQuery
