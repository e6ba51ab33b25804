import ObjectQuery.Composition.Operation
import ObjectQuery.Proofs.Frame.Joins

/-!
# What a statement binds

In the scope of a statement only the source of a select, or the target of a write, binds
anything: every other clause leaves the scope as it finds it. A write binds one target, and
of the targets of a source all but the first have aliases.
-/

namespace ObjectQuery

open Resolution

variable {settings : Settings} {extent : Extent} {before : Context}

theorem Resolvers.fragmentOf_keeps
    {expression : Expression}
    (noTarget : expression.kind ≠ .target) :
    (standard.fragmentOf expression).Keeps settings .all :=
  fragment_keeps (BuiltIn.answer_keeps expression noTarget)

theorem Resolvers.conditionOf_keeps (condition : Filter) :
    (standard.conditionOf (.filter condition)).Keeps settings .all :=
  predicate_keeps (BuiltIn.answer_keeps (.filter condition) nofun)

theorem Resolvers.planOf_keeps (selected : Projection) :
    (standard.planOf (.projection selected)).Keeps settings .all :=
  plan_keeps (BuiltIn.answer_keeps (.projection selected) nofun)

theorem Operation.stage_keeps
    {clause draft : Type}
    {add : draft → clause → Resolution draft}
    (adds : ∀ current found, (add current found).Keeps settings extent)
    (current : draft)
    (found : Option clause) :
    (stage add current found).Keeps settings extent := by
  cases found with
  | none => exact .pure _
  | some found => exact adds current found

/-- The values that pass the check of an operation are operands. -/
theorem Operation.areOperands_of_values
    {values : List (Path × Expression)}
    (valid : validateValues values = .ok ()) :
    ∀ assignment ∈ values, assignment.2.isOperand = true := by
  induction values with
  | nil => exact List.forall_mem_nil _
  | cons first rest inductionHypothesis =>
      simp only [validateValues, Validation.andThen_ok_iff, Validation.require_ok_iff] at valid
      obtain ⟨-, isOperand, -, validRest⟩ := valid
      exact List.forall_mem_cons.mpr ⟨isOperand, inductionHypothesis validRest⟩

namespace WriteDraft

theorem assigned_keeps (path : Path) {value : Expression} (isOperand : value.isOperand = true) :
    (assigned .standard path value).Keeps settings .all := by
  have resolves : (withHint path.valueType (Resolvers.standard.fragmentOf value)).Keeps settings
      .all :=
    (Resolvers.fragmentOf_keeps (Expression.kind_ne_target_of_isOperand isOperand)).withHint _
  refine .bind .dialect fun dialect => ?_
  split
  · split
    · exact .pure _
    · exact resolves
  · exact resolves

theorem withAssignments_keeps
    {values : List (Path × Expression)}
    (operands : ∀ assignment ∈ values, assignment.2.isOperand = true)
    (draft : WriteDraft) :
    (withAssignments .standard draft values).Keeps settings .all := by
  induction values generalizing draft with
  | nil => exact .pure _
  | cons first rest inductionHypothesis =>
      obtain ⟨isOperand, operands⟩ := List.forall_mem_cons.mp operands
      have assigns : (draft.withAssignment .standard first.1 first.2).Keeps settings .all := by
        unfold withAssignment
        split
        · exact .fail _
        · split
          · exact .fail _
          · have columns : (Resolvers.standard.fragmentOf (.path first.1)).Keeps settings .all :=
              Resolvers.fragmentOf_keeps (by simp [Expression.kind])
            exact columns.bind fun _ => (assigned_keeps first.1 isOperand).bind fun _ => .pure _
      exact assigns.bind fun draft => inductionHypothesis operands draft

theorem withFilter_keeps (draft : WriteDraft) (condition : Filter) :
    (draft.withFilter .standard condition).Keeps settings .all := by
  unfold withFilter
  split
  · exact .fail _
  · exact (Resolvers.conditionOf_keeps condition).bind fun _ => .pure _

theorem withTarget_joinsAliased
    (draft : WriteDraft)
    (target : Target)
    (fresh : before.current.bindings = []) :
    (draft.withTarget target).Ensures settings before fun _ after =>
      after.current.JoinsAliased := by
  unfold withTarget
  split
  · exact .fail _
  · split
    · exact .unsupported _
    · refine Ensures.bind (BuiltIn.introduce_binds target) fun binding after bound => .pure ?_
      rw [Scope.JoinsAliased, bound, fresh]
      exact List.forall_mem_nil _

end WriteDraft

/-- What keeps the scope in hand keeps its joined targets. -/
theorem Resolution.Keeps.joinsAliased
    {result : Type}
    {step : Resolution result}
    (keeps : step.Keeps settings .all)
    (aliased : before.current.JoinsAliased) :
    step.Ensures settings before fun _ after => after.current.JoinsAliased :=
  keeps.ensures.weaken fun _ after kept => by rwa [kept.current]

theorem composeSelect_joinsAliased (operation : Operation) (fresh : before.current.bindings = []) :
    (operation.composeSelect .standard).Ensures settings before fun _ after =>
      after.current.JoinsAliased := by
  have groups (grouping : Aggregation) :
      (Resolvers.standard.fragmentOf (.aggregation grouping)).Keeps settings .all :=
    Resolvers.fragmentOf_keeps (by simp [Expression.kind])
  have sorts (keys : List SortKey) :
      (Resolvers.standard.fragmentOf (.sort keys)).Keeps settings .all :=
    Resolvers.fragmentOf_keeps (by simp [Expression.kind])
  refine (SelectDraft.withTarget_ensures
    (BuiltIn.source_joinsAliased operation.target fresh)).bind ?_
  rintro draft sourced ⟨-, -, aliased⟩
  refine Keeps.joinsAliased (.bind (Operation.stage_keeps (fun draft condition =>
    draft.withFilter_keeps (Resolvers.conditionOf_keeps condition)) _ _) fun draft => ?_) aliased
  refine (Operation.stage_keeps (fun draft grouping =>
    draft.withAggregation_keeps (groups grouping)) _ _).bind fun draft => ?_
  refine (Operation.stage_keeps (fun draft keys =>
    draft.withSort_keeps (sorts keys)) _ _).bind fun draft => ?_
  refine (draft.withProjection_keeps (Resolvers.planOf_keeps _)).bind fun draft => ?_
  exact .bind (.ofExcept _) fun _ => .pure _

theorem composeWrite_joinsAliased
    {operation : Operation}
    (valid : operation.validate = .ok ())
    (fresh : before.current.bindings = []) :
    (operation.composeWrite .standard).Ensures settings before fun _ after =>
      after.current.JoinsAliased := by
  simp only [Operation.validate, Validation.andThen_ok_iff] at valid
  obtain ⟨-, -, -, -, -, -, validValues⟩ := valid
  have starts : (WriteDraft.start operation.kind).Keeps settings .all := by
    unfold WriteDraft.start
    split
    · exact .pure _
    · exact .pure _
    · exact .unsupported _
    · exact .fail _
  refine starts.ensures.bind fun draft started kept => ?_
  rw [← kept.current] at fresh
  refine (draft.withTarget_joinsAliased operation.target fresh).bind fun draft bound aliased => ?_
  have operands := Operation.areOperands_of_values validValues
  refine Keeps.joinsAliased (.bind (WriteDraft.withAssignments_keeps operands draft)
    fun draft => ?_) aliased
  refine (Operation.stage_keeps WriteDraft.withFilter_keeps draft _).bind fun draft => ?_
  exact .bind (.ofExcept _) fun _ => .pure _

/-- In the scope of a statement every target but the first has an alias. -/
theorem compose_joinsAliased (operation : Operation) (fresh : before.current.bindings = []) :
    (operation.compose .standard).Ensures settings before fun _ after =>
      after.current.JoinsAliased := by
  refine .bindContext ?_
  split
  · refine .bindChecked fun valid => ?_
    split
    · exact composeSelect_joinsAliased operation fresh
    · exact composeWrite_joinsAliased valid fresh
  · exact .fail _

end ObjectQuery
