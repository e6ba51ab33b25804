import ObjectQuery.Compiler.Configuration
import ObjectQuery.Proofs.Frame.Steps
import ObjectQuery.Proofs.Sketch.Sources
import ObjectQuery.Sample

/-!
# What the library's own resolvers leave as it is

Only a target binds anything in the scope in hand. Every other node keeps all the scopes in
sight, whether it is written or refused: the targets of a sub-query go into a scope of its
own, which is dropped when the sub-query is left. The proof follows the mutual recursion of
the resolvers. A target reaches them only where a source is written, since a node that
passed its check has operands in all other places.
-/

namespace ObjectQuery

theorem Expression.kind_ne_target_of_isOperand
    {expression : Expression}
    (operand : expression.isOperand = true) :
    expression.kind ≠ .target := by
  cases expression <;> simp [isOperand, kind] at operand ⊢

namespace Validation

/-- The arguments of a function that passes its check are operands. -/
theorem areOperands_of_arguments
    {kind : FunctionKind}
    {arguments : List Expression}
    (valid : functionArguments kind arguments = .ok ()) :
    ∀ argument ∈ arguments, argument.isOperand = true := by
  induction arguments with
  | nil => exact List.forall_mem_nil _
  | cons first rest inductionHypothesis =>
      simp only [functionArguments, andThen_ok_iff, require_ok_iff] at valid
      exact List.forall_mem_cons.mpr ⟨valid.1, inductionHypothesis valid.2.2⟩

/-- The keys of a grouping that passes its check are operands. -/
theorem areOperands_of_keys
    {keys : List Expression}
    (valid : groupKeys keys = .ok ()) :
    ∀ key ∈ keys, key.isOperand = true := by
  induction keys with
  | nil => exact List.forall_mem_nil _
  | cons first rest inductionHypothesis =>
      simp only [groupKeys, andThen_ok_iff] at valid
      exact List.forall_mem_cons.mpr
        ⟨isOperand_of_key valid.1, inductionHypothesis valid.2.2⟩

end Validation

namespace BuiltIn

open Resolution

variable {settings : Settings}

/-! ## What does not depend on smaller nodes -/

theorem path_keeps (found : Path) : (path found).Keeps settings .all := by
  have owners : (owningAlias found).Keeps settings .all := by
    unfold owningAlias
    split
    · exact qualifyingAlias_keeps _
    · exact .bind .context fun context => .pure _
  refine owners.bind fun aliasName => ?_
  split
  · exact .pure _
  · exact .pure _

theorem bindValue_keeps (value : Value) : (bindValue value).Keeps settings .all :=
  .bind .context fun _ => newReference_keeps _ _

theorem bindItems_keeps (items : List Value) : (bindItems items).Keeps settings .all := by
  induction items with
  | nil => exact .pure _
  | cons item rest inductionHypothesis =>
      exact (bindValue_keeps item).bind fun _ => inductionHypothesis.bind fun _ => .pure _

theorem constant_keeps (value : Value) : (constant value).Keeps settings .all := by
  cases value with
  | null => exact .pure _
  | list items => exact (bindItems_keeps items).bind fun _ => .pure _
  | _ => exact bindValue_keeps _

theorem spelled_keeps (kind : FunctionKind) (arguments : List String) (distinct : Bool) :
    (spelled kind arguments distinct).Keeps settings .all :=
  .bind .dialect fun _ => .ofExcept _

theorem matchedText_keeps (value : Expression) : (matchedText value).Keeps settings .all := by
  unfold matchedText
  split
  · exact .pure _
  · exact .fail _

theorem matchText_keeps (left text : String) (mode : MatchMode) (ignoreCase : Bool) :
    (matchText left text mode ignoreCase).Keeps settings .all := by
  have subjects : (matchSubject left ignoreCase).Keeps settings .all := by
    unfold matchSubject
    split
    · exact spelled_keeps _ _ _
    · exact .pure _
  exact .bind .dialect fun _ => subjects.bind fun _ =>
    (newReference_keeps _ _).bind fun _ => .pure _

theorem entityPlan_keeps (name : Option String) : (entityPlan name).Keeps settings .all := by
  have selects : (selectedTarget name).Keeps settings .all := by
    cases name with
    | some name => exact lookup_keeps name
    | none =>
        refine .bind .context fun context => ?_
        split
        · exact .pure _
        · exact .fail _
  exact selects.bind fun _ => .pure _

theorem attributesPlan_keeps : attributesPlan.Keeps settings .all := by
  refine .bind .context fun context => ?_
  split
  · exact .fail _
  · split
    · exact .unsupported _
    · exact .bind .dialect fun _ => .pure _

theorem countPlan_keeps : countPlan.Keeps settings .all :=
  .bind .context fun _ => (spelled_keeps _ _ _).bind fun _ => .pure _

theorem constantPlan_keeps (value : Value) : (constantPlan value).Keeps settings .all :=
  .bind .dialect fun _ => .bind (.ofExcept _) fun _ => .pure _

theorem introduceJoined_keeps (joinType : JoinType) (target : Target) :
    (introduceJoined joinType target).Keeps settings .around := by
  refine .bind .dialect fun dialect => .bind .context fun context => ?_
  split
  · exact .unsupported _
  · refine (introduce_keeps target).bind fun binding => ?_
    split
    · exact .pure _
    · exact .fail _

theorem checkCorrelations_keeps (names : List String) :
    (checkCorrelations names).Keeps settings .all := by
  induction names with
  | nil => exact .pure _
  | cons name rest inductionHypothesis =>
      have found : (aliasOf name).Keeps settings .all := (lookup_keeps name).bind fun _ => .pure _
      exact found.bind fun _ => inductionHypothesis

/-- The text of an operand, which is no target. -/
theorem operand_keeps
    {operand : Expression}
    (isOperand : operand.isOperand = true)
    (answers : operand.kind ≠ .target → Validation.expression operand = .ok () →
      (answer .standard operand).Keeps settings .all) :
    (Resolvers.standard.fragment operand (answer .standard operand)).Keeps settings .all :=
  Resolvers.fragment_keeps (answers (Expression.kind_ne_target_of_isOperand isOperand))

/-- The text of a condition. -/
theorem condition_keeps
    {condition : Filter}
    (filters : Validation.filter condition = .ok () →
      (filter .standard condition).Keeps settings .all) :
    (Resolvers.standard.predicate (.filter condition)
      (filter .standard condition)).Keeps settings .all :=
  Resolvers.predicate_keeps fun valid =>
    filters (by simpa only [Expression.validate, Validation.expression] using valid)

/-! ## Sub-queries -/

/-- What a sub-query resolves in the scope of its own. -/
def queryBody (registry : Resolvers) : SubQuery → Resolution String
  | .mk queried condition selected correlations => do
      checkCorrelations correlations
      let draft ← SelectDraft.start.withTarget
        (registry.fragment (.target queried) (do
          let text ← target registry queried
          return .fragment text))
      let draft ← conditionStage registry draft condition
      let draft ← draft.withProjection
        (registry.plan (.projection selected) (do
          let plan ← projection registry selected
          return .projection plan))
      let select ← ofExcept draft.assemble
      return select.text

theorem subQuery_eq (registry : Resolvers) (query : SubQuery) :
    subQuery registry query =
      (do
        let context ← context
        inChild (childMode context.current.aliasMode) (queryBody registry query)) := by
  cases query
  rw [subQuery]
  rfl

/-! ## The nodes -/

mutual

/-- Every node but a target keeps the scopes in sight. -/
theorem answer_keeps :
    (expression : Expression) → expression.kind ≠ .target →
      Validation.expression expression = .ok () →
      (answer .standard expression).Keeps settings .all
  | .path found, _, _ => by
      simp only [answer]
      exact (path_keeps found).bind fun _ => .pure _
  | .constant value, _, _ => by
      simp only [answer]
      exact (constant_keeps value).bind fun _ => .pure _
  | .function call, _, valid => by
      simp only [Validation.expression] at valid
      simp only [answer]
      exact (function_keeps call valid).bind fun _ => .pure _
  | .subQuery query, _, _ => by
      simp only [answer]
      exact (subQuery_keeps query).bind fun _ => .pure _
  | .filter condition, _, valid => by
      simp only [Validation.expression] at valid
      simp only [answer]
      exact filter_keeps condition valid
  | .sort keys, _, valid => by
      simp only [Validation.expression, Validation.andThen_ok_iff] at valid
      simp only [answer]
      exact (sortKeys_keeps keys valid.2).bind fun _ => .pure _
  | .aggregation grouping, _, valid => by
      simp only [Validation.expression] at valid
      simp only [answer]
      exact (aggregation_keeps grouping valid).bind fun _ => .pure _
  | .projection selected, _, valid => by
      simp only [Validation.expression] at valid
      simp only [answer]
      exact (projection_keeps selected valid).bind fun _ => .pure _
  | .target _, noTarget, _ => (noTarget rfl).elim
  | .custom node, _, _ => by
      simp only [answer]
      exact .fail _

theorem function_keeps :
    (call : FunctionCall) → Validation.function call = .ok () →
      (function .standard call).Keeps settings .all
  | .mk kind arguments distinct, valid => by
      simp only [Validation.function, Validation.andThen_ok_iff] at valid
      have operands := Validation.areOperands_of_arguments valid.2.2
      simp only [function]
      exact (fragments_keeps arguments operands).bind fun _ => spelled_keeps _ _ _

theorem fragments_keeps :
    (expressions : List Expression) → (∀ expression ∈ expressions, expression.isOperand = true) →
      (fragments .standard expressions).Keeps settings .all
  | [], _ => by
      simp only [fragments]
      exact .pure _
  | first :: rest, operands => by
      rw [List.forall_mem_cons] at operands
      simp only [fragments]
      refine (operand_keeps operands.1 (answer_keeps first)).bind fun text => ?_
      exact (fragments_keeps rest operands.2).bind fun texts => .pure _

theorem filter_keeps :
    (condition : Filter) → Validation.filter condition = .ok () →
      (filter .standard condition).Keeps settings .all
  | .isNull operand, valid | .isNotNull operand, valid => by
      simp only [Validation.filter, Validation.andThen_ok_iff, Validation.require_ok_iff] at valid
      simp only [filter]
      exact (operand_keeps valid.1 (answer_keeps operand)).bind fun _ => .pure _
  | .compare left operator right, valid => by
      simp only [Validation.filter, Validation.andThen_ok_iff] at valid
      obtain ⟨roleLeft, -, roleRight, -⟩ := valid
      have lefts := operand_keeps (Validation.isOperand_of_role roleLeft) (answer_keeps left)
      have rights := operand_keeps (Validation.isOperand_of_role roleRight) (answer_keeps right)
      simp only [filter]
      exact lefts.bind fun _ => (rights.withHint _).bind fun _ => .pure _
  | .between operand lower upper, valid => by
      simp only [Validation.filter, Validation.andThen_ok_iff] at valid
      obtain ⟨role, -, roleLower, -, roleUpper, -⟩ := valid
      have operands := operand_keeps (Validation.isOperand_of_role role) (answer_keeps operand)
      have lowers := operand_keeps (Validation.isOperand_of_role roleLower) (answer_keeps lower)
      have uppers := operand_keeps (Validation.isOperand_of_role roleUpper) (answer_keeps upper)
      simp only [filter]
      exact operands.bind fun _ => (lowers.withHint _).bind fun _ =>
        (uppers.withHint _).bind fun _ => .pure _
  | .isIn left right, valid | .isNotIn left right, valid => by
      simp only [Validation.filter, Validation.andThen_ok_iff] at valid
      obtain ⟨roleLeft, -, roleRight, -⟩ := valid
      have lefts := operand_keeps (Validation.isOperand_of_role roleLeft) (answer_keeps left)
      have rights := operand_keeps (Validation.isOperand_of_member roleRight) (answer_keeps right)
      simp only [filter]
      exact lefts.bind fun _ => (rights.withHint _).bind fun _ => .pure _
  | .stringMatch left value mode ignoreCase, valid => by
      simp only [Validation.filter, Validation.andThen_ok_iff] at valid
      have lefts := operand_keeps (Validation.isOperand_of_role valid.1) (answer_keeps left)
      simp only [filter]
      refine (matchedText_keeps value).bind fun text => lefts.bind fun leftText => ?_
      exact (matchText_keeps _ text mode ignoreCase).bind fun _ => .pure _
  | .and [], _ | .or [], _ => by
      simp only [filter]
      exact .pure _
  | .and (first :: rest), valid | .or (first :: rest), valid => by
      simp only [Validation.filter, Validation.filters, Validation.andThen_ok_iff] at valid
      simp only [filter]
      refine (condition_keeps (filter_keeps first)).bind fun text => ?_
      exact (predicates_keeps rest).bind fun texts => .pure _
  | .not condition, _ => by
      simp only [filter]
      exact (condition_keeps (filter_keeps condition)).bind fun _ => .pure _
  | .hasRows query, _ | .hasNoRows query, _ => by
      simp only [filter]
      refine .bind (Resolvers.fragment_keeps fun _ => ?_) fun _ => .pure _
      exact (subQuery_keeps query).bind fun _ => .pure _

theorem predicates_keeps :
    (conditions : List Filter) → (predicates .standard conditions).Keeps settings .all
  | [] => by
      simp only [predicates]
      exact .pure _
  | first :: rest => by
      simp only [predicates]
      refine (condition_keeps (filter_keeps first)).bind fun text => ?_
      exact (predicates_keeps rest).bind fun texts => .pure _

theorem sortKeys_keeps :
    (keys : List SortKey) → Validation.sortKeys keys = .ok () →
      (sortKeys .standard keys).Keeps settings .all
  | [], _ => by
      simp only [sortKeys]
      exact .pure _
  | .mk key direction :: rest, valid => by
      simp only [Validation.sortKeys, Validation.sortKey, Validation.andThen_ok_iff] at valid
      have keys := operand_keeps (Validation.isOperand_of_key valid.1.1) (answer_keeps key)
      simp only [sortKeys, sortKey]
      exact (keys.bind fun _ => .pure _).bind fun _ =>
        (sortKeys_keeps rest valid.2).bind fun _ => .pure _

theorem aggregation_keeps :
    (grouping : Aggregation) → Validation.aggregation grouping = .ok () →
      (aggregation .standard grouping).Keeps settings .all
  | .mk keys none, valid => by
      simp only [Validation.aggregation, Validation.andThen_ok_iff] at valid
      have operands := Validation.areOperands_of_keys valid.2.1
      simp only [aggregation]
      exact (fragments_keeps keys operands).bind fun _ => .pure _
  | .mk keys (some condition), valid => by
      simp only [Validation.aggregation, Validation.andThen_ok_iff] at valid
      have operands := Validation.areOperands_of_keys valid.2.1
      simp only [aggregation]
      exact (fragments_keeps keys operands).bind fun _ =>
        (condition_keeps (filter_keeps condition)).bind fun _ => .pure _

theorem projection_keeps :
    (selected : Projection) → Validation.projection selected = .ok () →
      (projection .standard selected).Keeps settings .all
  | .path found, _ => by
      simp only [projection]
      refine .bind (Resolvers.fragment_keeps fun _ => ?_) fun _ => .pure _
      exact (path_keeps found).bind fun _ => .pure _
  | .function call, valid => by
      simp only [Validation.projection] at valid
      simp only [projection]
      refine .bind (Resolvers.fragment_keeps fun _ => ?_) fun _ => .pure _
      exact (function_keeps call valid).bind fun _ => .pure _
  | .constant value, _ => by
      simp only [projection]
      exact constantPlan_keeps value
  | .target name, _ => by
      simp only [projection]
      exact entityPlan_keeps name
  | .properties items, valid => by
      simp only [Validation.projection, Validation.andThen_ok_iff] at valid
      simp only [projection]
      exact (projectionItems_keeps [] items valid.2).bind fun _ =>
        .bind .dialect fun _ => .pure _
  | .selectAll, _ => by
      simp only [projection]
      exact attributesPlan_keeps
  | .countAll, _ => by
      simp only [projection]
      exact countPlan_keeps

theorem projectionItems_keeps (earlier : List String) :
    (items : List NamedProperty) → Validation.projectionItems earlier items = .ok () →
      (projectionItems .standard items).Keeps settings .all
  | [], _ => by
      simp only [projectionItems]
      exact .pure _
  | .mk name item :: rest, valid => by
      simp only [Validation.projectionItems, Validation.andThen_ok_iff,
        Validation.require_ok_iff] at valid
      obtain ⟨-, -, isOperand, -, validRest⟩ := valid
      simp only [projectionItems, projectionItem]
      refine .bind ((operand_keeps isOperand (answer_keeps item)).bind fun _ => .pure _)
        fun column => ?_
      exact (projectionItems_keeps (name :: earlier) rest validRest).bind fun _ => .pure _

/-- What a sub-query resolves in the scope of its own leaves the scopes around that alone. -/
theorem queryBody_keeps :
    (query : SubQuery) → (queryBody .standard query).Keeps settings .around
  | .mk queried condition selected correlations => by
      simp only [queryBody]
      refine (checkCorrelations_keeps correlations).around.bind fun _ => ?_
      have sources : (Resolvers.standard.fragment (.target queried) (do
          let text ← target .standard queried
          return .fragment text)).Keeps settings .around :=
        Resolvers.fragment_keeps fun _ => (target_keeps queried).bind fun _ => .pure _
      refine (SelectDraft.withTarget_keeps _ sources).bind fun draft => ?_
      refine (conditionStage_keeps condition draft).around.bind fun draft => ?_
      have plans : (Resolvers.standard.plan (.projection selected) (do
          let plan ← projection .standard selected
          return .projection plan)).Keeps settings .all :=
        Resolvers.plan_keeps fun valid => (projection_keeps selected valid).bind fun _ => .pure _
      refine (SelectDraft.withProjection_keeps _ plans).around.bind fun draft => ?_
      exact .bind (.ofExcept _) fun _ => .pure _

theorem subQuery_keeps (query : SubQuery) : (subQuery .standard query).Keeps settings .all := by
  rw [subQuery_eq]
  exact .bind .context fun _ => (queryBody_keeps query).inChild _

theorem conditionStage_keeps :
    (condition : Option Filter) → (draft : SelectDraft) →
      (conditionStage .standard draft condition).Keeps settings .all
  | none, draft => by
      simp only [conditionStage]
      exact .pure _
  | some condition, draft => by
      simp only [conditionStage]
      exact SelectDraft.withFilter_keeps draft (condition_keeps (filter_keeps condition))

/-- A target is bound in the scope in hand, and so are the targets joined to it. -/
theorem target_keeps : (found : Target) → (target .standard found).Keeps settings .around
  | .mk name entity given joined => by
      simp only [target]
      exact (introduce_keeps _).bind fun _ => (joins_keeps joined).bind fun _ => .pure _

theorem joins_keeps : (joined : List Join) → (joins .standard joined).Keeps settings .around
  | [] => by
      simp only [joins]
      exact .pure _
  | .mk joinType (.mk name entity given within) none :: rest => by
      simp only [joins, join, joinCondition, innerJoins]
      refine .bind ?_ fun _ => (joins_keeps rest).bind fun _ => .pure _
      exact (introduceJoined_keeps joinType _).bind fun _ => .bind (.pure _) fun _ =>
        (joins_keeps within).bind fun _ => .pure _
  | .mk joinType (.mk name entity given within) (some condition) :: rest => by
      have conditions : (Resolvers.standard.predicate (.filter condition)
          (filter .standard condition)).Keeps settings .around :=
        (condition_keeps (filter_keeps condition)).around
      simp only [joins, join, joinCondition, innerJoins]
      refine .bind ?_ fun _ => (joins_keeps rest).bind fun _ => .pure _
      exact (introduceJoined_keeps joinType _).bind fun _ =>
        .bind (conditions.bind fun _ => .pure _) fun _ =>
          (joins_keeps within).bind fun _ => .pure _

end

end BuiltIn

namespace Resolvers

variable {settings : Settings} {before after : Context}

/-- Resolving anything but a target leaves the scopes in sight and the hint as they are, whether
it succeeds or fails, and adds to the parameters and aliases only at the end. A qualifier
therefore names the same target before and after. Leaving a sub-query restores nothing that
the sub-query could have changed: the scopes around its own are not touched inside it. -/
theorem resolve_leaves_surroundings
    {expression : Expression}
    {output : OutputKind}
    {outcome : Except ResolutionError Resolved}
    (noTarget : expression.kind ≠ .target)
    (run : standard.resolve expression output settings before = (outcome, after)) :
    after.current = before.current ∧
      after.enclosing = before.enclosing ∧
      after.depth = before.depth ∧
      after.hint = before.hint ∧
      before.parameters.entries <+: after.parameters.entries ∧
      before.aliases <+: after.aliases ∧
      (∀ qualifier, after.find? qualifier = before.find? qualifier) ∧
      ∀ query aliasMode, expression = .subQuery query →
        (BuiltIn.queryBody standard query settings (before.enter aliasMode)).2.enclosing =
          before.current :: before.enclosing := by
  have resolved : (standard.resolve expression output).Keeps settings .all :=
    dispatch_keeps (BuiltIn.answer_keeps expression noTarget)
  have kept := resolved before
  rw [run] at kept
  refine ⟨kept.current, kept.enclosing, ?_, kept.hint, kept.parameters, kept.aliases,
    kept.find?_eq, fun query aliasMode _ => ?_⟩
  · rw [Context.depth, kept.enclosing, Context.depth]
  · exact (BuiltIn.queryBody_keeps query (before.enter aliasMode)).enclosing

/-- A sub-query that fails after it has bound a target and a parameter: its alias and its
parameter stay used, its target is not found outside. -/
theorem failing_subQuery_leaves_surroundings :
    let settings : Settings :=
      ⟨(Configuration.standard .hibernate).dialect, "default", standardDepthLimit⟩
    let before := (Resolution.introduce (Target.named "customer") settings (.root .auto none)).2
    let large : Filter :=
      .compare (.path Sample.total) (.greater false) (.constant (.integer 5))
    let unbound : Filter := .isNull (.path (Sample.total.ofTarget "invoice"))
    let orders := (SubQuery.of (Target.named "order") (.path Sample.identifier)).withFilter
      (.and [large, unbound])
    ∃ after,
      standard.resolve (.subQuery orders) .fragment settings before =
          (.error (.missingTarget "invoice"), after) ∧
        after.parameters.names = ["p0001"] ∧
        after.aliases = ["cust_0_0", "orde_1_0"] ∧
        after.current = before.current ∧
        after.find? "order" = none := by
  intro settings before large unbound orders
  have fails : (match (standard.resolve (.subQuery orders) .fragment settings before).1 with
      | .error error => some error
      | .ok _ => none) = some (.missingTarget "invoice") := by
    decide +kernel
  have parameters : (standard.resolve (.subQuery orders) .fragment settings
      before).2.parameters.names = ["p0001"] := by
    decide +kernel
  have aliases : (standard.resolve (.subQuery orders) .fragment settings before).2.aliases =
      ["cust_0_0", "orde_1_0"] := by
    decide +kernel
  cases run : standard.resolve (.subQuery orders) .fragment settings before with
  | mk outcome after =>
      rw [run] at fails parameters aliases
      have noTarget : (Expression.subQuery orders).kind ≠ .target := nofun
      obtain ⟨current, -, -, -, -, -, finds, -⟩ := resolve_leaves_surroundings noTarget run
      cases outcome with
      | ok resolved => simp at fails
      | error error =>
          obtain rfl : error = .missingTarget "invoice" := by simpa using fails
          refine ⟨after, rfl, parameters, aliases, current, ?_⟩
          rw [finds]
          decide +kernel

end Resolvers
end ObjectQuery
