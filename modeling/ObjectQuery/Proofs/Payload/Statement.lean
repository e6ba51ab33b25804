import ObjectQuery.Compiler.Basic
import ObjectQuery.Proofs.Payload.BuiltIn
import ObjectQuery.Proofs.Throughout
import ObjectQuery.Sample

/-!
# Statements do not show the payload of constants

An operation and its mask are composed in lockstep, unless an assigned string looks like
a reference: such a string is written into the statement as it stands. Two operations that
differ in payloads alone have one mask, so they are compiled to one text with the same
parameter names, or rejected with one error.
-/

namespace ObjectQuery

namespace WriteDraft

open Resolution

variable {settings : Settings}

theorem start_lockstep (kind : OperationKind) :
    InLockstep settings Eq (start kind) (start kind) := by
  cases kind with
  | update | delete => exact .pure rfl
  | insert => exact .unsupported _
  | select => exact .fail _

theorem withTarget_lockstep (draft : WriteDraft) (target : Target) :
    InLockstep settings Eq (draft.withTarget target) (draft.withTarget target.masked) := by
  simp only [withTarget, Target.joins_masked, Join.isEmpty_allMasked, BuiltIn.introduce_masked]
  split
  · exact .fail _
  · split
    · exact .unsupported _
    · exact (introduce_lockstep target).bindEq fun binding => .pure rfl

/-- A string that starts with the marker would be assigned as it stands. -/
theorem assigned_lockstep
    (path : Path)
    (value : Expression)
    (noReference : ∀ text, value = .constant (.string text) →
      text.toList.head? ≠ some settings.dialect.parameterMarker) :
    InLockstep settings Eq (assigned .standard path value)
      (assigned .standard path value.masked) := by
  have resolved : InLockstep settings Eq
      (withHint path.valueType (Resolvers.standard.fragmentOf value))
      (withHint path.valueType (Resolvers.standard.fragmentOf value.masked)) :=
    .withHint _ _ (BuiltIn.fragment_masked value (BuiltIn.answer_lockstep value))
  refine .bindDialect ?_
  cases value with
  | constant value =>
      cases value with
      | string text =>
          have bound := Dialect.looksLikeReference_of_head? (noReference text rfl)
          have boundSample : settings.dialect.looksLikeReference "" = false := rfl
          simp only [Expression.masked, Value.masked, Value.sample, bound, boundSample]
          exact resolved
      | _ => exact resolved
  | _ => exact resolved

theorem withAssignments_lockstep
    {values : List (Path × Expression)}
    (noReference : ∀ assignment ∈ values, ∀ text, assignment.2 = .constant (.string text) →
      text.toList.head? ≠ some settings.dialect.parameterMarker)
    (draft : WriteDraft) :
    InLockstep settings Eq (withAssignments .standard draft values)
      (withAssignments .standard draft (Operation.maskedValues values)) := by
  induction values generalizing draft with
  | nil => exact .pure rfl
  | cons assignment rest inductionHypothesis =>
      have first : InLockstep settings Eq
          (draft.withAssignment .standard assignment.1 assignment.2)
          (draft.withAssignment .standard assignment.1 assignment.2.masked) := by
        simp only [withAssignment]
        split
        · exact .fail _
        · split
          · exact .fail _
          · refine (BuiltIn.fragment_masked (.path assignment.1)
              (BuiltIn.answer_lockstep _)).bindEq fun column => ?_
            refine (assigned_lockstep assignment.1 assignment.2 ?_).bindEq fun text => .pure rfl
            exact noReference assignment (by simp)
      exact first.bindEq fun draft =>
        inductionHypothesis (fun found member => noReference found (by simp [member])) draft

theorem withFilter_lockstep (draft : WriteDraft) (condition : Filter) :
    InLockstep settings Eq (draft.withFilter .standard condition)
      (draft.withFilter .standard condition.masked) := by
  simp only [withFilter]
  split
  · exact .fail _
  · refine (BuiltIn.predicate_masked condition
      (BuiltIn.answer_lockstep (.filter condition))).bindEq fun text => ?_
    exact .pure rfl

end WriteDraft

namespace Operation

open Resolution

variable {settings : Settings}

/-! ## Validation -/

theorem validateValues_masked (values : List (Path × Expression)) :
    validateValues (maskedValues values) = validateValues values := by
  induction values with
  | nil => rfl
  | cons assignment rest inductionHypothesis =>
      have valid : Validation.expression assignment.2.masked = _ :=
        Validation.expression_masked assignment.2
      simp only [maskedValues] at inductionHypothesis
      simp only [maskedValues, List.map_cons, validateValues, Expression.isOperand_masked, valid,
        inductionHypothesis]

theorem validateClause_map
    {clause : Type}
    (validate : clause → Checked)
    (mask : clause → clause)
    (kept : ∀ found, validate (mask found) = validate found)
    (found : Option clause) :
    validateClause validate (found.map mask) = validateClause validate found := by
  cases found with
  | none => rfl
  | some found => exact kept found

@[simp] theorem validate_masked (operation : Operation) :
    operation.masked.validate = operation.validate := by
  have sorted (keys : List SortKey) : Validation.expression (.sort (SortKey.allMasked keys)) =
      Validation.expression (.sort keys) := by
    simpa only [Expression.masked] using Validation.expression_masked (.sort keys)
  have noValues : operation.masked.values.isEmpty = operation.values.isEmpty := by
    simp [masked, maskedValues]
  simp only [validate, noValues]
  simp only [masked, Validation.target_masked,
    validateClause_map Validation.filter Filter.masked Validation.filter_masked,
    validateClause_map Validation.aggregation Aggregation.masked Validation.aggregation_masked,
    validateClause_map (fun keys => Validation.expression (.sort keys)) SortKey.allMasked sorted,
    validateClause_map Validation.projection Projection.masked Validation.projection_masked,
    validateValues_masked]

/-! ## Composition -/

variable {clause draft : Type}

/-- A clause that is missing is missing from the mask as well. -/
theorem stage_lockstep
    {related : draft → draft → Prop}
    {add add' : draft → clause → Resolution draft}
    {mask : clause → clause}
    {before before' : draft}
    (befores : related before before')
    (adds : ∀ found, InLockstep settings related (add before found) (add' before' (mask found)))
    (found : Option clause) :
    InLockstep settings related (stage add before found) (stage add' before' (found.map mask)) := by
  cases found with
  | none => exact .pure befores
  | some found => exact adds found

/-- A select and its mask are composed in lockstep. -/
theorem composeSelect_lockstep (operation : Operation) :
    InLockstep settings (fun composed composed' => composed.text = composed'.text)
      (operation.composeSelect .standard) (operation.masked.composeSelect .standard) := by
  have projection :
      (operation.projection.map Projection.masked).getD Projection.entity =
        (operation.projection.getD Projection.entity).masked := by
    cases operation.projection <;> rfl
  simp only [composeSelect, masked, projection]
  refine (SelectDraft.withTarget_lockstep (SelectDraft.start_alike _)
    (BuiltIn.fragment_masked (.target operation.target) (BuiltIn.answer_lockstep _))).bind
    fun _ _ drafts => ?_
  refine (stage_lockstep drafts (fun condition => ?_) operation.filter).bind fun _ _ drafts => ?_
  · exact SelectDraft.withFilter_lockstep drafts
      (BuiltIn.predicate_masked condition (BuiltIn.answer_lockstep (.filter condition)))
  refine (stage_lockstep drafts (fun grouping => ?_) operation.aggregation).bind
    fun _ _ drafts => ?_
  · exact SelectDraft.withAggregation_lockstep drafts
      (BuiltIn.fragment_masked (.aggregation grouping) (BuiltIn.answer_lockstep _))
  refine (stage_lockstep drafts (fun keys => ?_) operation.sort).bind fun _ _ drafts => ?_
  · exact SelectDraft.withSort_lockstep drafts
      (BuiltIn.fragment_masked (.sort keys) (BuiltIn.answer_lockstep _))
  refine (SelectDraft.withProjection_lockstep drafts
    (BuiltIn.plan_masked _ (BuiltIn.answer_lockstep (.projection _)))).bind fun _ _ drafts => ?_
  exact (SelectDraft.assemble_lockstep drafts).bind fun _ _ selects => .pure selects.text

theorem composeWrite_lockstep
    (operation : Operation)
    (noReference : operation.AssignsNoReference settings.dialect.parameterMarker) :
    InLockstep settings (fun composed composed' => composed.text = composed'.text)
      (operation.composeWrite .standard) (operation.masked.composeWrite .standard) := by
  refine (WriteDraft.start_lockstep operation.kind).bindEq fun draft => ?_
  refine (WriteDraft.withTarget_lockstep draft operation.target).bindEq fun draft => ?_
  refine (WriteDraft.withAssignments_lockstep noReference draft).bindEq fun draft => ?_
  refine (stage_lockstep rfl (WriteDraft.withFilter_lockstep draft) operation.filter).bindEq
    fun draft => ?_
  exact (InLockstep.ofExcept _).bindEq fun text => .pure rfl

/-- An operation and its mask are composed in lockstep. -/
theorem compose_lockstep
    (operation : Operation)
    (noReference : operation.AssignsNoReference settings.dialect.parameterMarker) :
    InLockstep settings (fun composed composed' => composed.text = composed'.text)
      (operation.compose .standard) (operation.masked.compose .standard) := by
  refine InLockstep.context.bind fun context context' alike => ?_
  simp only [alike.isRoot, validate_masked]
  split
  · refine (InLockstep.ofChecked _).bindEq fun _ => ?_
    have kind : operation.masked.kind = operation.kind := rfl
    simp only [kind]
    split
    · exact composeSelect_lockstep operation
    · exact composeWrite_lockstep operation noReference
  · exact .fail _

end Operation

namespace Compiler

open Resolution

/-- What of a compilation does not concern data: the text and the parameter names, or the error. -/
def written (compiler : Compiler) (operation : Operation) :
    Except CompileError (String × List String) :=
  (compiler.compile operation).1.map fun statement => (statement.text, statement.parameters.names)

/-- The mask of an operation is written as the operation is. -/
theorem written_masked
    {compiler : Compiler}
    {operation : Operation}
    (standard : compiler.registry = Resolvers.standard)
    (noReference : operation.AssignsNoReference compiler.dialect.parameterMarker) :
    compiler.written operation = compiler.written operation.masked := by
  have ends : AlikeEnds (fun composed composed' => composed.text = composed'.text)
      (operation.compose .standard compiler.settings (compiler.context operation))
      (operation.masked.compose .standard compiler.settings
        (compiler.context operation.masked)) :=
    Operation.compose_lockstep operation noReference _ _ (Context.Alike.refl _)
  simp only [written, compile, standard]
  generalize operation.compose .standard _ _ = composed at ends ⊢
  generalize operation.masked.compose .standard _ _ = composed' at ends ⊢
  cases ends with
  | ok texts contexts =>
      simp only [statement, Except.map, texts, contexts.names]
  | error contexts => rfl

/-- Operations that differ in the payload of constants alone are written alike. -/
theorem written_eq_of_masked_eq
    {compiler : Compiler}
    {operation operation' : Operation}
    (standard : compiler.registry = Resolvers.standard)
    (masks : operation.masked = operation'.masked)
    (noReference : operation.AssignsNoReference compiler.dialect.parameterMarker)
    (noReference' : operation'.AssignsNoReference compiler.dialect.parameterMarker) :
    compiler.written operation = compiler.written operation' := by
  calc compiler.written operation
      = compiler.written operation.masked := written_masked standard noReference
    _ = compiler.written operation'.masked := by rw [masks]
    _ = compiler.written operation' := (written_masked standard noReference').symm

/-- Two updates of a status, one of them to a text that looks like a part of a statement. -/
theorem written_status_update :
    let compiler : Compiler :=
      ⟨.standard .hibernate, (Configuration.standard .hibernate).dialect, .standard, none⟩
    let update (status : String) : Operation :=
      (Operation.of .update (Target.named "order")).set Sample.status (.constant (.string status))
    compiler.written (update "open") =
        .ok ("UPDATE order orde_0_0 SET orde_0_0.status=:p0001", ["p0001"]) ∧
      compiler.written (update "open") = compiler.written (update "x' WHERE (1=1)") := by
  refine ⟨by rfl, written_eq_of_masked_eq rfl rfl ?_ ?_⟩
  · intro assignment member text assigned
    obtain rfl : assignment = (Sample.status, .constant (.string "open")) := by
      simpa [Operation.set, Operation.of] using member
    obtain rfl : "open" = text := by simpa using assigned
    decide
  · intro assignment member text assigned
    obtain rfl : assignment = (Sample.status, .constant (.string "x' WHERE (1=1)")) := by
      simpa [Operation.set, Operation.of] using member
    obtain rfl : "x' WHERE (1=1)" = text := by simpa using assigned
    decide

end Compiler
end ObjectQuery
