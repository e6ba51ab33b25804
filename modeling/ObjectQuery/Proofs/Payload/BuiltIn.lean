import ObjectQuery.Proofs.Payload.Draft
import ObjectQuery.Proofs.Payload.Validation
import ObjectQuery.Resolution.BuiltIn

/-!
# The library's own resolvers do not see payloads

The library's answer for a node and its answer for the node's mask run in lockstep. The
proof follows the mutual recursion of the resolvers: each of them is put together from
answers for smaller nodes by ways that keep lockstep, and the few steps that meet a
payload only bind it.
-/

namespace ObjectQuery
namespace BuiltIn

open Resolution

variable {settings : Settings}

theorem owningAlias_lockstep (found : Path) :
    InLockstep settings Eq (owningAlias found) (owningAlias found) := by
  unfold owningAlias
  split
  · exact qualifyingAlias_lockstep _
  · refine InLockstep.context.bind fun context context' alike => ?_
    rw [alike.rootTarget?]
    exact .pure rfl

theorem path_lockstep (found : Path) : InLockstep settings Eq (path found) (path found) := by
  refine (owningAlias_lockstep found).bindEq fun aliasName => ?_
  split
  · exact .pure rfl
  · exact .pure rfl

theorem bindValue_lockstep (value value' : Value) :
    InLockstep settings Eq (bindValue value) (bindValue value') :=
  InLockstep.context.bind fun _ _ _ => newReference_lockstep _ _ _ _

theorem bindItems_lockstep (items : List Value) :
    InLockstep settings Eq (bindItems items) (bindItems (items.map Value.sample)) := by
  induction items with
  | nil => exact .pure rfl
  | cons item rest inductionHypothesis =>
      refine (bindValue_lockstep item item.sample).bindEq fun reference => ?_
      refine inductionHypothesis.bindEq fun references => ?_
      exact .pure rfl

theorem constant_lockstep (value : Value) :
    InLockstep settings Eq (constant value) (constant value.masked) := by
  cases value with
  | null => exact .pure rfl
  | list items => exact (bindItems_lockstep items).bindEq fun _ => .pure rfl
  | _ => exact bindValue_lockstep _ _

theorem spelled_lockstep (kind : FunctionKind) (arguments : List String) (distinct : Bool) :
    InLockstep settings Eq (spelled kind arguments distinct) (spelled kind arguments distinct) :=
  .bindDialect (.ofExcept _)

@[simp] theorem enclose_masked (operand : Expression) (text : String) :
    enclose operand.masked text = enclose operand text := by
  cases operand <;> simp [enclose, Expression.masked]

/-- Whether a constant has a text to look for shows in its variant; the texts may differ. -/
theorem matchedText_lockstep (value : Expression) :
    InLockstep settings (fun _ _ => True) (matchedText value) (matchedText value.masked) := by
  cases value with
  | constant value =>
      cases value with
      | string text => exact .pure trivial
      | enum name => exact .pure trivial
      | decimal digits => exact .pure trivial
      | _ => exact .fail _
  | _ => exact .fail _

theorem matchSubject_lockstep (left : String) (ignoreCase : Bool) :
    InLockstep settings Eq (matchSubject left ignoreCase) (matchSubject left ignoreCase) := by
  unfold matchSubject
  split
  · exact spelled_lockstep _ _ _
  · exact .pure rfl

/-- The text that is looked for is bound, so the written match does not show it. -/
theorem matchText_lockstep
    (left text text' : String)
    (mode : MatchMode)
    (ignoreCase : Bool) :
    InLockstep settings Eq (matchText left text mode ignoreCase)
      (matchText left text' mode ignoreCase) := by
  refine .bindDialect ?_
  refine (matchSubject_lockstep left ignoreCase).bindEq fun subject => ?_
  exact (newReference_lockstep _ _ _ _).bindEq fun _ => .pure rfl

theorem alike_refl (plan : ProjectionPlan) : plan.Alike plan :=
  ⟨rfl, fun _ => rfl⟩

theorem selectedTarget_lockstep (name : Option String) :
    InLockstep settings Eq (selectedTarget name) (selectedTarget name) := by
  cases name with
  | some name => exact lookup_lockstep name
  | none =>
      refine InLockstep.context.bind fun context context' alike => ?_
      rw [alike.rootTarget?]
      split
      · exact .pure rfl
      · exact .fail _

theorem entityPlan_lockstep (name : Option String) :
    InLockstep settings ProjectionPlan.Alike (entityPlan name) (entityPlan name) :=
  (selectedTarget_lockstep name).bindEq fun _ => .pure (alike_refl _)

theorem attributesPlan_lockstep :
    InLockstep settings ProjectionPlan.Alike attributesPlan attributesPlan := by
  refine InLockstep.context.bind fun context context' alike => ?_
  rw [alike.rootTarget?]
  split
  · exact .fail _
  · split
    · exact .unsupported _
    · exact .bindDialect (.pure (alike_refl _))

theorem countPlan_lockstep : InLockstep settings ProjectionPlan.Alike countPlan countPlan := by
  refine InLockstep.context.bind fun context context' alike => ?_
  rw [alike.rootTarget?]
  exact (spelled_lockstep _ _ _).bindEq fun _ => .pure (alike_refl _)

theorem constantPlan_lockstep (value : Value) :
    InLockstep settings ProjectionPlan.Alike (constantPlan value) (constantPlan value) :=
  .bindDialect ((InLockstep.ofExcept _).bindEq fun _ => .pure (alike_refl _))

theorem introduceJoined_lockstep (joinType : JoinType) (target : Target) :
    InLockstep settings Eq (introduceJoined joinType target) (introduceJoined joinType target) := by
  refine .bindDialect ?_
  refine InLockstep.context.bind fun context context' alike => ?_
  rw [alike.current]
  split
  · exact .unsupported _
  · refine (introduce_lockstep target).bindEq fun binding => ?_
    split
    · exact .pure rfl
    · exact .fail _

theorem checkCorrelations_lockstep (names : List String) :
    InLockstep settings Eq (checkCorrelations names) (checkCorrelations names) := by
  induction names with
  | nil => exact .pure rfl
  | cons name rest inductionHypothesis =>
      exact (aliasOf_lockstep name).bindEq fun _ => inductionHypothesis

@[simp] theorem introduce_masked (target : Target) :
    introduce target.masked = introduce target := by
  simp [introduce, targetEntity]

@[simp] theorem introduceJoined_masked (joinType : JoinType) (target : Target) :
    introduceJoined joinType target.masked = introduceJoined joinType target := by
  simp [introduceJoined]

/-- Plans of records are alike when their columns agree in name and text. -/
theorem alike_record
    (shape : RowShape)
    {columns columns' : List (String × String × ValueType)}
    (equal : columns.map (fun column => (column.1, column.2.1)) =
      columns'.map fun column => (column.1, column.2.1)) :
    (ProjectionPlan.record shape columns).Alike (ProjectionPlan.record shape columns') where
  selections := by
    have selections := congrArg
      (List.map fun column : String × String => Selection.mk column.2 (some column.1)) equal
    simpa [ProjectionPlan.record, Function.comp_def] using selections
  columns := by
    have within : ∀ (columns columns' : List (String × String × ValueType)) (position length : Nat),
        columns.length = columns'.length →
        ((ProjectionPlan.columnsFrom position columns).all fun column =>
            column.position < length) =
          (ProjectionPlan.columnsFrom position columns').all fun column =>
            column.position < length := by
      intro columns
      induction columns with
      | nil =>
          intro columns' position length lengths
          rw [List.length_nil, eq_comm, List.length_eq_zero_iff] at lengths
          rw [lengths]
      | cons column rest inductionHypothesis =>
          intro columns' position length lengths
          cases columns' with
          | nil => simp at lengths
          | cons column' rest' =>
              have inRest := inductionHypothesis rest' (position + 1) length (by simpa using lengths)
              simp only [ProjectionPlan.columnsFrom, List.all_cons, inRest]
    intro length
    exact within columns columns' 0 length (by simpa using congrArg List.length equal)

/-- The texts of a node and its mask are resolved in lockstep if the answers for them are. -/
theorem fragment_masked
    (expression : Expression)
    {own own' : Resolution Resolved}
    (answers : InLockstep settings Resolved.Alike own own') :
    InLockstep settings Eq (Resolvers.standard.fragment expression own)
      (Resolvers.standard.fragment expression.masked own') :=
  Resolvers.fragment_lockstep expression.validate_masked.symm expression.kind_masked.symm answers

theorem predicate_masked
    (condition : Filter)
    {own own' : Resolution Resolved}
    (answers : InLockstep settings Resolved.Alike own own') :
    InLockstep settings Eq (Resolvers.standard.predicate (.filter condition) own)
      (Resolvers.standard.predicate (.filter condition.masked) own') :=
  Resolvers.predicate_lockstep (Expression.validate_masked (.filter condition)).symm rfl answers

theorem plan_masked
    (selected : Projection)
    {own own' : Resolution Resolved}
    (answers : InLockstep settings Resolved.Alike own own') :
    InLockstep settings ProjectionPlan.Alike (Resolvers.standard.plan (.projection selected) own)
      (Resolvers.standard.plan (.projection selected.masked) own') :=
  Resolvers.plan_lockstep (Expression.validate_masked (.projection selected)).symm rfl answers

mutual

/-- The library's answers for a node and for its mask run in lockstep. -/
theorem answer_lockstep :
    (expression : Expression) →
      InLockstep settings Resolved.Alike (answer .standard expression) (answer .standard expression.masked)
  | .path found => by
      simp only [Expression.masked, answer]
      exact (path_lockstep found).bindEq fun text => .pure (.fragment text)
  | .constant value => by
      simp only [Expression.masked, answer]
      exact (constant_lockstep value).bindEq fun text => .pure (.fragment text)
  | .function call => by
      simp only [Expression.masked, answer]
      exact (function_lockstep call).bindEq fun text => .pure (.fragment text)
  | .subQuery query => by
      simp only [Expression.masked, answer]
      exact (subQuery_lockstep query).bindEq fun text => .pure (.fragment text)
  | .filter condition => by
      simp only [Expression.masked, answer]
      exact filter_lockstep condition
  | .sort keys => by
      simp only [Expression.masked, answer]
      exact (sortKeys_lockstep keys).bindEq fun items => .pure (.fragment _)
  | .aggregation found => by
      simp only [Expression.masked, answer]
      exact (aggregation_lockstep found).bindEq fun text => .pure (.fragment text)
  | .projection found => by
      simp only [Expression.masked, answer]
      exact (projection_lockstep found).bind fun _ _ plans => .pure (.projection plans)
  | .target found => by
      simp only [Expression.masked, answer]
      exact (target_lockstep found).bindEq fun text => .pure (.fragment text)
  | .custom node => by
      simp only [Expression.masked, answer]
      exact .fail _

theorem function_lockstep :
    (call : FunctionCall) →
      InLockstep settings Eq (function .standard call) (function .standard call.masked)
  | .mk kind arguments distinct => by
      simp only [FunctionCall.masked, function]
      exact (fragments_lockstep arguments).bindEq fun written =>
        spelled_lockstep kind written distinct

theorem fragments_lockstep :
    (expressions : List Expression) →
      InLockstep settings Eq (fragments .standard expressions)
        (fragments .standard (Expression.allMasked expressions))
  | [] => by
      simp only [Expression.allMasked, fragments]
      exact .pure rfl
  | first :: rest => by
      simp only [Expression.allMasked, fragments]
      refine (fragment_masked first (answer_lockstep first)).bindEq fun text => ?_
      exact (fragments_lockstep rest).bindEq fun texts => .pure rfl

theorem filter_lockstep :
    (condition : Filter) →
      InLockstep settings Resolved.Alike (filter .standard condition) (filter .standard condition.masked)
  | .isNull operand | .isNotNull operand => by
      simp only [Filter.masked, filter, enclose_masked]
      exact (fragment_masked operand (answer_lockstep operand)).bindEq fun text =>
        .pure (.fragment _)
  | .between operand lower upper => by
      simp only [Filter.masked, filter, enclose_masked]
      refine (fragment_masked operand (answer_lockstep operand)).bindEq fun text => ?_
      refine (InLockstep.withHint _ _ (fragment_masked lower (answer_lockstep lower))).bindEq
        fun lowerText => ?_
      refine (InLockstep.withHint _ _ (fragment_masked upper (answer_lockstep upper))).bindEq
        fun upperText => ?_
      exact .pure (.fragment _)
  | .compare left _ right | .isIn left right | .isNotIn left right => by
      simp only [Filter.masked, filter, enclose_masked]
      refine (fragment_masked left (answer_lockstep left)).bindEq fun leftText => ?_
      refine (InLockstep.withHint _ _ (fragment_masked right (answer_lockstep right))).bindEq
        fun rightText => ?_
      exact .pure (.fragment _)
  | .stringMatch left value mode ignoreCase => by
      simp only [Filter.masked, filter, enclose_masked]
      refine (matchedText_lockstep value).bind fun text text' _ => ?_
      refine (fragment_masked left (answer_lockstep left)).bindEq fun leftText => ?_
      exact (matchText_lockstep _ text text' mode ignoreCase).bindEq fun written =>
        .pure (.fragment written)
  | .and [] | .or [] => by
      simp only [Filter.masked, Filter.allMasked, filter]
      exact .pure .emptyPredicate
  | .and (first :: rest) | .or (first :: rest) => by
      simp only [Filter.masked, Filter.allMasked, filter]
      refine (predicate_masked first (filter_lockstep first)).bindEq fun text => ?_
      exact (predicates_lockstep rest).bindEq fun texts => .pure (.fragment _)
  | .not condition => by
      simp only [Filter.masked, filter]
      exact (predicate_masked condition (filter_lockstep condition)).bindEq fun text =>
        .pure (.fragment _)
  | .hasRows query | .hasNoRows query => by
      simp only [Filter.masked, filter]
      refine (fragment_masked (.subQuery query) ?_).bindEq fun text => .pure (.fragment _)
      exact (subQuery_lockstep query).bindEq fun text => .pure (.fragment text)

theorem predicates_lockstep :
    (conditions : List Filter) →
      InLockstep settings Eq (predicates .standard conditions)
        (predicates .standard (Filter.allMasked conditions))
  | [] => by
      simp only [Filter.allMasked, predicates]
      exact .pure rfl
  | first :: rest => by
      simp only [Filter.allMasked, predicates]
      refine (predicate_masked first (filter_lockstep first)).bindEq fun text => ?_
      exact (predicates_lockstep rest).bindEq fun texts => .pure rfl

theorem sortKeys_lockstep :
    (keys : List SortKey) →
      InLockstep settings Eq (sortKeys .standard keys) (sortKeys .standard (SortKey.allMasked keys))
  | [] => by
      simp only [SortKey.allMasked, sortKeys]
      exact .pure rfl
  | first :: rest => by
      simp only [SortKey.allMasked, sortKeys]
      refine (sortKey_lockstep first).bindEq fun text => ?_
      exact (sortKeys_lockstep rest).bindEq fun texts => .pure rfl

theorem sortKey_lockstep :
    (key : SortKey) → InLockstep settings Eq (sortKey .standard key) (sortKey .standard key.masked)
  | .mk key direction => by
      simp only [SortKey.masked, sortKey]
      exact (fragment_masked key (answer_lockstep key)).bindEq fun text => .pure rfl

theorem aggregation_lockstep :
    (found : Aggregation) →
      InLockstep settings Eq (aggregation .standard found) (aggregation .standard found.masked)
  | .mk keys none => by
      simp only [Aggregation.masked, Filter.maskedIfAny, aggregation]
      exact (fragments_lockstep keys).bindEq fun texts => .pure rfl
  | .mk keys (some condition) => by
      simp only [Aggregation.masked, Filter.maskedIfAny, aggregation]
      refine (fragments_lockstep keys).bindEq fun texts => ?_
      exact (predicate_masked condition (filter_lockstep condition)).bindEq fun text => .pure rfl

theorem projection_lockstep :
    (found : Projection) →
      InLockstep settings ProjectionPlan.Alike (projection .standard found)
        (projection .standard found.masked)
  | .path found => by
      simp only [Projection.masked, projection]
      refine (Resolvers.fragment_lockstep rfl rfl ?_).bindEq fun text => .pure (alike_refl _)
      exact (path_lockstep found).bindEq fun text => .pure (.fragment text)
  | .function call => by
      simp only [Projection.masked, projection]
      refine (fragment_masked (.function call) ?_).bindEq fun text => .pure ⟨rfl, fun _ => rfl⟩
      exact (function_lockstep call).bindEq fun text => .pure (.fragment text)
  | .constant value => by
      simp only [Projection.masked, projection]
      exact constantPlan_lockstep value
  | .target name => by
      simp only [Projection.masked, projection]
      exact entityPlan_lockstep name
  | .properties items => by
      simp only [Projection.masked, projection]
      refine (projectionItems_lockstep items).bind fun columns columns' equal => ?_
      exact .bindDialect (.pure (alike_record _ equal))
  | .selectAll => by
      simp only [Projection.masked, projection]
      exact attributesPlan_lockstep
  | .countAll => by
      simp only [Projection.masked, projection]
      exact countPlan_lockstep

theorem projectionItems_lockstep :
    (items : List NamedProperty) →
      InLockstep settings
        (fun columns columns' =>
          columns.map (fun column => (column.1, column.2.1)) =
            columns'.map fun column => (column.1, column.2.1))
        (projectionItems .standard items)
        (projectionItems .standard (NamedProperty.allMasked items))
  | [] => by
      simp only [NamedProperty.allMasked, projectionItems]
      exact .pure rfl
  | first :: rest => by
      simp only [NamedProperty.allMasked, projectionItems]
      refine (projectionItem_lockstep first).bind fun column column' equal => ?_
      refine (projectionItems_lockstep rest).bind fun columns columns' equals => ?_
      exact .pure (by simp only [List.map_cons, equal, equals])

theorem projectionItem_lockstep :
    (item : NamedProperty) →
      InLockstep settings (fun column column' => (column.1, column.2.1) = (column'.1, column'.2.1))
        (projectionItem .standard item) (projectionItem .standard item.masked)
  | .mk name item => by
      simp only [NamedProperty.masked, projectionItem]
      exact (fragment_masked item (answer_lockstep item)).bindEq fun text => .pure rfl

theorem target_lockstep :
    (found : Target) → InLockstep settings Eq (target .standard found) (target .standard found.masked)
  | .mk name entity given joined => by
      have masked := introduce_masked (.mk name entity given joined)
      simp only [Target.masked] at masked
      simp only [Target.masked, target, masked]
      refine (introduce_lockstep _).bindEq fun binding => ?_
      exact (joins_lockstep joined).bindEq fun text => .pure rfl

theorem joins_lockstep :
    (joined : List Join) →
      InLockstep settings Eq (joins .standard joined) (joins .standard (Join.allMasked joined))
  | [] => by
      simp only [Join.allMasked, joins]
      exact .pure rfl
  | first :: rest => by
      simp only [Join.allMasked, joins]
      refine (join_lockstep first).bindEq fun text => ?_
      exact (joins_lockstep rest).bindEq fun texts => .pure rfl

theorem join_lockstep :
    (found : Join) → InLockstep settings Eq (join .standard found) (join .standard found.masked)
  | .mk joinType joined condition => by
      simp only [Join.masked, join, introduceJoined_masked]
      refine (introduceJoined_lockstep joinType joined).bindEq fun binding => ?_
      refine (joinCondition_lockstep condition).bindEq fun text => ?_
      exact (innerJoins_lockstep joined).bindEq fun inner => .pure rfl

theorem joinCondition_lockstep :
    (condition : Option Filter) →
      InLockstep settings Eq (joinCondition .standard condition)
        (joinCondition .standard (Filter.maskedIfAny condition))
  | none => by
      simp only [Filter.maskedIfAny, joinCondition]
      exact .pure rfl
  | some condition => by
      simp only [Filter.maskedIfAny, joinCondition]
      exact (predicate_masked condition (filter_lockstep condition)).bindEq fun text => .pure rfl

theorem innerJoins_lockstep :
    (found : Target) →
      InLockstep settings Eq (innerJoins .standard found) (innerJoins .standard found.masked)
  | .mk name entity given joined => by
      simp only [Target.masked, innerJoins]
      exact joins_lockstep joined

theorem subQuery_lockstep :
    (query : SubQuery) →
      InLockstep settings Eq (subQuery .standard query) (subQuery .standard query.masked)
  | .mk queried condition selected correlations => by
      simp only [SubQuery.masked, subQuery]
      refine InLockstep.context.bind fun context context' alike => ?_
      rw [alike.current]
      refine .inChild _ ?_
      refine (checkCorrelations_lockstep correlations).bindEq fun _ => ?_
      have sources := fragment_masked (.target queried)
        ((target_lockstep queried).bindEq fun text => .pure (.fragment text))
      refine (SelectDraft.withTarget_lockstep (SelectDraft.start_alike false) sources).bind
        fun _ _ drafts => ?_
      refine (conditionStage_lockstep condition drafts).bind fun _ _ drafts => ?_
      have plans := plan_masked selected
        ((projection_lockstep selected).bind fun _ _ plans => .pure (.projection plans))
      refine (SelectDraft.withProjection_lockstep drafts plans).bind fun _ _ drafts => ?_
      refine (SelectDraft.assemble_lockstep drafts).bind fun select select' selects => ?_
      exact .pure selects.text

theorem conditionStage_lockstep :
    (condition : Option Filter) → {draft draft' : SelectDraft} → draft.Alike draft' →
      InLockstep settings SelectDraft.Alike (conditionStage .standard draft condition)
        (conditionStage .standard draft' (Filter.maskedIfAny condition))
  | none, _, _, alike => by
      simp only [Filter.maskedIfAny, conditionStage]
      exact .pure alike
  | some condition, _, _, alike => by
      simp only [Filter.maskedIfAny, conditionStage]
      exact SelectDraft.withFilter_lockstep alike
        (predicate_masked condition (filter_lockstep condition))

end

end BuiltIn
end ObjectQuery
