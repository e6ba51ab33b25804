import ObjectQuery.Compiler.Basic
import ObjectQuery.Proofs.Aliases.Visible
import ObjectQuery.Proofs.Vacuity.Nodes
import ObjectQuery.Sample

/-!
# Statements without vacuous conditions

No statement is compiled for an operation in which a vacuous condition occurs, and the error
that names an empty predicate is given for no other operation. A write that has a condition
is therefore restricted by it: its text is that of the unrestricted write with the written
condition after it.
-/

namespace ObjectQuery

open Resolution

variable {settings : Settings}

/-! ## Selects -/

/-- A clause that is missing holds no vacuous condition. -/
theorem Operation.stage_refuses
    {clause draft : Type}
    {add : draft → clause → Resolution draft}
    {occurs : clause → Bool}
    (adds : ∀ draft clause, (add draft clause).Refuses settings (occurs clause))
    (current : draft)
    (found : Option clause) :
    (Operation.stage add current found).Refuses settings (found.any occurs) := by
  cases found with
  | none => exact .pure _
  | some found => exact adds current found

theorem Operation.composeSelect_refuses (operation : Operation) :
    (operation.composeSelect .standard).Refuses settings
      (operation.target.hasVacuous ||
        (operation.filter.any Filter.hasVacuous ||
          (operation.aggregation.any Aggregation.hasVacuous ||
            (operation.sort.any SortKey.haveVacuous ||
              operation.projection.any Projection.hasVacuous)))) := by
  have projections : (operation.projection.getD Projection.entity).hasVacuous =
      operation.projection.any Projection.hasVacuous := by
    cases operation.projection with
    | none => rfl
    | some selected => rfl
  rw [← projections]
  refine (SelectDraft.withTarget_refuses
    (Resolvers.fragment_refuses (BuiltIn.answer_tells _)) _).bind fun draft => ?_
  refine (Operation.stage_refuses (fun draft condition => SelectDraft.withFilter_refuses
    (Resolvers.predicate_refuses (BuiltIn.answer_tells (.filter condition))) draft) draft
      operation.filter).bind fun draft => ?_
  refine (Operation.stage_refuses (fun draft grouping => SelectDraft.withAggregation_refuses
    (Resolvers.fragment_refuses (BuiltIn.answer_tells (.aggregation grouping))) draft) draft
      operation.aggregation).bind fun draft => ?_
  refine (Operation.stage_refuses (fun draft keys => SelectDraft.withSort_refuses
    (Resolvers.fragment_refuses (BuiltIn.answer_tells (.sort keys))) draft) draft
      operation.sort).bind fun draft => ?_
  refine (SelectDraft.withProjection_refuses
    (Resolvers.plan_refuses (BuiltIn.answer_tells (.projection _))) draft).thenSilent
      fun draft => ?_
  exact .afterSilent (.ofExcept (SelectDraft.assemble_ne_emptyPredicate _)) fun _ => .pure _

/-! ## Writes -/

namespace WriteDraft

/-- A string that is assigned as it stands is a constant, in which no condition occurs. -/
theorem assigned_refuses (path : Path) (value : Expression) :
    (assigned .standard path value).Refuses settings value.hasVacuous := by
  have resolved : (Resolution.withHint path.valueType
      (Resolvers.standard.fragmentOf value)).Refuses settings value.hasVacuous :=
    (Resolvers.fragment_refuses (BuiltIn.answer_tells value)).withHint _
  refine .afterSilent .dialect fun dialect => ?_
  split
  · split
    · exact .pure _
    · exact resolved
  · exact resolved

theorem withAssignment_refuses (draft : WriteDraft) (path : Path) (value : Expression) :
    (draft.withAssignment .standard path value).Refuses settings value.hasVacuous := by
  unfold withAssignment
  split
  · exact .fail (by simp)
  · split
    · exact .fail (by simp)
    · have columns : (Resolvers.standard.fragmentOf (.path path)).Refuses settings false :=
        Resolvers.fragment_refuses (BuiltIn.answer_tells (.path path))
      exact columns.afterSilent fun _ => (assigned_refuses path value).thenSilent fun _ => .pure _

theorem withAssignments_refuses (values : List (Path × Expression)) (draft : WriteDraft) :
    (withAssignments .standard draft values).Refuses settings
      (values.any fun assignment => assignment.2.hasVacuous) := by
  induction values generalizing draft with
  | nil => exact .pure _
  | cons assignment rest inductionHypothesis =>
      rw [List.any_cons]
      exact (withAssignment_refuses draft assignment.1 assignment.2).bind inductionHypothesis

theorem withFilter_refuses (draft : WriteDraft) (condition : Filter) :
    (draft.withFilter .standard condition).Refuses settings condition.hasVacuous := by
  unfold withFilter
  split
  · exact .fail (by simp)
  · exact (Resolvers.predicate_refuses (BuiltIn.answer_tells (.filter condition))).thenSilent
      fun _ => .pure _

theorem assemble_ne_emptyPredicate (draft : WriteDraft) :
    draft.assemble ≠ .error .emptyPredicate := by
  unfold assemble
  split
  · simp
  · split
    · split <;> simp
    · simp

end WriteDraft

theorem Operation.composeWrite_refuses (operation : Operation) :
    (operation.composeWrite .standard).Refuses settings
      ((operation.values.any fun assignment => assignment.2.hasVacuous) ||
        operation.filter.any Filter.hasVacuous) := by
  have starts : (WriteDraft.start operation.kind).Refuses settings false := by
    unfold WriteDraft.start
    split
    · exact .pure _
    · exact .pure _
    · exact .unsupported _
    · exact .fail (by simp)
  have targets (draft : WriteDraft) :
      (draft.withTarget operation.target).Refuses settings false := by
    unfold WriteDraft.withTarget
    split
    · exact .fail (by simp)
    · split
      · exact .unsupported _
      · exact (introduce_silent _).afterSilent fun _ => .pure _
  refine starts.afterSilent fun draft => (targets draft).afterSilent fun draft => ?_
  refine (WriteDraft.withAssignments_refuses operation.values draft).bind fun draft => ?_
  refine (Operation.stage_refuses (fun draft condition => draft.withFilter_refuses condition)
    draft operation.filter).thenSilent fun draft => ?_
  exact .afterSilent (.ofExcept (WriteDraft.assemble_ne_emptyPredicate _)) fun _ => .pure _

theorem Operation.compose_refuses (operation : Operation) :
    (operation.compose .standard).Refuses settings operation.hasVacuous := by
  refine .afterSilent .context fun context => ?_
  split
  · refine .bindChecked ?_
    unfold Operation.hasVacuous
    split
    · next isSelect => exact isSelect ▸ operation.composeSelect_refuses
    · next isWrite =>
        have written : (operation.composeWrite .standard).Refuses settings _ :=
          operation.composeWrite_refuses
        cases kind : operation.kind with
        | select => exact absurd kind isWrite
        | update => exact written
        | delete => exact written
        | insert => exact written
  · exact .fail (by simp)

/-! ## Writes under a condition -/

namespace WriteDraft

/-- A draft has no condition before its filter stage. -/
theorem unfiltered_ensures (operation : Operation) (settings : Settings) (before : Context) :
    (do
      let draft ← start operation.kind
      let draft ← draft.withTarget operation.target
      withAssignments .standard draft operation.values).Ensures settings before
        fun draft _ => draft.condition = none := by
  have starts : (start operation.kind).Ensures settings before
      fun draft _ => draft.condition = none := by
    unfold start
    split
    · exact .pure rfl
    · exact .pure rfl
    · exact .unsupported _
    · exact .fail _
  refine starts.bind fun draft between unfiltered => ?_
  have targets : (draft.withTarget operation.target).Ensures settings between
      fun draft _ => draft.condition = none := by
    unfold withTarget
    split
    · exact .fail _
    · split
      · exact .unsupported _
      · exact Ensures.bind (fun _ _ _ => trivial) fun binding after (_ : True) =>
          .pure unfiltered
  refine targets.bind fun draft between unfiltered => ?_
  refine (withAssignments_guided operation.values).weaken ?_
  rintro _ _ ⟨assignments, rfl, -⟩
  exact unfiltered

/-- The condition stands at the end of the text. -/
theorem assemble_filtered
    {draft : WriteDraft}
    {condition text : String}
    (unfiltered : draft.condition = none)
    (assembled : { draft with condition := some condition }.assemble = .ok text) :
    ∃ bare, draft.assemble = .ok bare ∧ text = bare ++ " WHERE " ++ condition := by
  have clause : SelectDraft.clause "WHERE " (some condition) = " WHERE " ++ condition := rfl
  have noClause : SelectDraft.clause "WHERE " none = "" := rfl
  unfold assemble at assembled ⊢
  simp only [unfiltered, clause, noClause, String.append_empty] at assembled ⊢
  split at assembled
  · simp at assembled
  · split at assembled
    · split at assembled
      · simp at assembled
      · next declaration found isUpdate assigns =>
          cases assembled
          exact ⟨"UPDATE " ++ declaration ++ " SET " ++ ", ".intercalate draft.assignments,
            by simp [isUpdate, assigns], by simp only [String.append_assoc]⟩
    · next declaration found isDelete =>
        cases assembled
        exact ⟨"DELETE FROM " ++ declaration, by simp [isDelete],
          by simp only [String.append_assoc]⟩

end WriteDraft

/-- A write under a condition goes on where the unrestricted write has ended. -/
theorem Operation.composeWrite_filtered
    {operation : Operation}
    {condition : Filter}
    {before after : Context}
    {composed : StatementText}
    (filtered : operation.filter = some condition)
    (run : operation.composeWrite .standard settings before = (.ok composed, after)) :
    ∃ bare between text,
      { operation with filter := none }.composeWrite .standard settings before =
          (.ok ⟨bare, none⟩, between) ∧
        Resolvers.standard.conditionOf (.filter condition) settings between = (.ok text, after) ∧
        composed = ⟨bare ++ " WHERE " ++ text, none⟩ := by
  obtain ⟨started, atStart, starts, run⟩ := exists_between run
  obtain ⟨declared, atTarget, targets, run⟩ := exists_between run
  obtain ⟨assigned, atValues, values, run⟩ := exists_between run
  obtain ⟨draft, atFilter, filters, run⟩ := exists_between run
  have unfiltered : assigned.condition = none := by
    have drafted := WriteDraft.unfiltered_ensures operation settings before
    exact drafted assigned atValues ((bind_run starts).trans ((bind_run targets).trans values))
  simp only [filtered, Operation.stage, WriteDraft.withFilter] at filters
  split at filters
  · simp [Resolution.fail] at filters
  · obtain ⟨text, atCondition, written, ends⟩ := exists_between filters
    obtain ⟨rfl, rfl⟩ := by simpa using ends
    obtain ⟨whole, atAssembly, assembly, ends⟩ := exists_between run
    obtain ⟨rfl, rfl⟩ := by simpa using ends
    obtain ⟨assembles, rfl⟩ := Prod.mk.inj assembly
    obtain ⟨bare, assemblesBare, rfl⟩ := WriteDraft.assemble_filtered unfiltered assembles
    refine ⟨bare, atValues, text, ?_, written, rfl⟩
    refine (bind_run starts).trans ((bind_run targets).trans ((bind_run values).trans ?_))
    simp only [Operation.stage, bind_apply, pure_apply, Resolution.ofExcept, assemblesBare]

/-- In a context without open sub-queries a valid write is composed from its parts. -/
theorem Operation.compose_write
    {operation : Operation}
    {before : Context}
    (isRoot : before.isRoot = true)
    (valid : operation.validate = .ok ())
    (isWrite : operation.kind.isWrite = true) :
    operation.compose .standard settings before =
      operation.composeWrite .standard settings before := by
  have notSelect : operation.kind ≠ .select := by simpa [OperationKind.isWrite] using isWrite
  simp [Operation.compose, bind_apply, Resolution.context, Resolution.ofChecked, isRoot, valid,
    notSelect]

theorem Operation.validate_unfiltered
    {operation : Operation}
    (valid : operation.validate = .ok ()) :
    { operation with filter := none }.validate = .ok () := by
  simp only [Operation.validate, Operation.validateClause, Validation.andThen_ok_iff] at valid ⊢
  exact ⟨valid.1, trivial, valid.2.2⟩

namespace Compiler

/-- No operation in which a vacuous condition occurs is compiled, and no other operation fails
for an empty predicate. A write that has a condition fails or is restricted by it: its text is
that of the unrestricted write, followed by the condition as it is written after that. -/
theorem compile_refuses_vacuous
    (compiler : Compiler)
    (operation : Operation)
    (standard : compiler.registry = Resolvers.standard) :
    (operation.hasVacuous = true → ∃ error, (compiler.compile operation).1 = .error error) ∧
      ((compiler.compile operation).1 = .error (.resolve .emptyPredicate) →
        operation.hasVacuous = true) ∧
      ∀ condition statement,
        operation.kind.isWrite = true → operation.filter = some condition →
          (compiler.compile operation).1 = .ok statement →
            ∃ bare between text after,
              { operation with filter := none }.compose .standard compiler.settings
                  (compiler.context operation) = (.ok ⟨bare, none⟩, between) ∧
                Resolvers.standard.conditionOf (.filter condition) compiler.settings between =
                  (.ok text, after) ∧
                Text.isBlank text = false ∧
                statement.text = bare ++ " WHERE " ++ text ∧
                statement.parameters = after.parameters := by
  have told : Told (fun _ => false) operation.hasVacuous
      (operation.compose .standard compiler.settings (compiler.context operation)).1 :=
    operation.compose_refuses (compiler.context operation)
  refine ⟨fun vacuous => ?_, fun empty => ?_,
    fun condition statement isWrite filtered compiled => ?_⟩
  · unfold compile
    rw [standard]
    split
    · next composed after run =>
        rw [run, vacuous] at told
        exact absurd told Bool.false_ne_true
    · next error after run => exact ⟨.resolve error, rfl⟩
  · unfold compile at empty
    rw [standard] at empty
    split at empty
    · simp at empty
    · next error after run =>
        rw [run] at told
        exact told (by simpa using empty)
  · obtain ⟨composed, after, run, rfl⟩ := exists_composed compiled
    rw [standard] at run
    have valid : operation.validate = .ok () := validate_of_compose operation composed after run
    rw [Operation.compose_write rfl valid isWrite] at run
    obtain ⟨bare, between, text, runBare, written, rfl⟩ :=
      Operation.composeWrite_filtered filtered run
    have validBare := Operation.validate_unfiltered valid
    have answers : (BuiltIn.answer .standard (.filter condition)).Ensures compiler.settings between
        (Resolved.Ensures (fun _ _ => True) fun _ _ => True) := by
      intro resolved after _
      cases resolved <;> exact trivial
    have taken := Resolvers.predicate_ensures (fun _ => answers) text after written
    exact ⟨bare, between, text, after,
      (Operation.compose_write rfl validBare isWrite).trans runBare, written, taken.1, rfl, rfl⟩

/-- Cancelled orders are deleted under their condition; with an empty disjunction in its place,
even inside a negation, nothing is compiled. -/
theorem purge_refuses_vacuous :
    let compiler : Compiler :=
      ⟨.standard .hibernate, (Configuration.standard .hibernate).dialect, .standard, none⟩
    let vacuous := { Sample.purgeCancelled with filter := some (.not (.or [])) }
    (∃ error, (compiler.compile vacuous).1 = .error error) ∧
      ∃ statement bare text,
        (compiler.compile Sample.purgeCancelled).1 = .ok statement ∧
          statement.text = "DELETE FROM order orde_0_0 WHERE orde_0_0.status=:p0001" ∧
          statement.text = bare ++ " WHERE " ++ text ∧
          Text.isBlank text = false := by
  intro compiler vacuous
  have refused := (compile_refuses_vacuous compiler vacuous rfl).1
  have shown : (compiler.compile Sample.purgeCancelled).1.toOption.map Statement.text =
      some "DELETE FROM order orde_0_0 WHERE orde_0_0.status=:p0001" := by
    decide +kernel
  obtain ⟨statement, compiled, text⟩ := Except.exists_ok_of_map_toOption shown
  obtain ⟨-, -, restricted⟩ := compile_refuses_vacuous compiler Sample.purgeCancelled rfl
  obtain ⟨bare, -, condition, -, -, -, notBlank, ends, -⟩ :=
    restricted (Sample.hasStatus "cancelled") statement rfl rfl compiled
  exact ⟨refused (by decide +kernel), statement, bare, condition, compiled, text, ends, notBlank⟩

end Compiler
end ObjectQuery
