import ObjectQuery.Proofs.Sketch.BuiltIn

/-!
# Statements follow the sketches of operations

Every successful composition of an operation is a run over the operation's sketch, which
writes the statement's text.
-/

namespace ObjectQuery

open Resolution BuiltIn
open Sketch (words separated guides_fragment guides_predicate guidesPlan_plan WritesEach)

variable {settings : Settings} {before : Context}

/-! ## Clauses of a select -/

section Stages

variable {draft : SelectDraft}

theorem filterStage_guided (found : Option Filter) (missing : draft.condition = none) :
    (Operation.stage
      (fun draft condition =>
        draft.withFilter (Resolvers.standard.conditionOf (.filter condition)))
      draft found).Ensures settings before fun draft' after =>
        ∃ stage condition, draft' = { draft with stage, condition } ∧
          (Filter.sketchAfter " WHERE " found).Writes settings before
            (SelectDraft.clause "WHERE " condition) after := by
  cases found with
  | none => exact .pure ⟨draft.stage, none, by rw [← missing], .words ""⟩
  | some condition =>
      refine (SelectDraft.withFilter_ensures
        (guides_predicate (answer_guided (.filter condition)) before)).weaken ?_
      rintro _ _ ⟨text, rfl, writes⟩
      simp only [Expression.sketch] at writes
      exact ⟨.filter, some text, rfl, writes.after_words " WHERE "⟩

theorem aggregationStage_guided (found : Option Aggregation) (missing : draft.grouping = none) :
    (Operation.stage
      (fun draft grouping =>
        draft.withAggregation (Resolvers.standard.fragmentOf (.aggregation grouping)))
      draft found).Ensures settings before fun draft' after =>
        ∃ stage grouping, draft' = { draft with stage, grouping } ∧
          (found.elim (words "") fun grouping => (words " ").append grouping.sketch).Writes settings
            before (SelectDraft.clause "" grouping) after := by
  cases found with
  | none => exact .pure ⟨draft.stage, none, by rw [← missing], .words ""⟩
  | some grouping =>
      refine (SelectDraft.withAggregation_ensures
        (guides_fragment (answer_guided (.aggregation grouping)) before)).weaken ?_
      rintro _ _ ⟨text, rfl, writes⟩
      simp only [Expression.sketch] at writes
      exact ⟨.aggregation, some text, rfl, writes.after_words " "⟩

theorem sortStage_guided (found : Option (List SortKey)) (missing : draft.ordering = none) :
    (Operation.stage
      (fun draft keys => draft.withSort (Resolvers.standard.fragmentOf (.sort keys)))
      draft found).Ensures settings before fun draft' after =>
        ∃ stage ordering, draft' = { draft with stage, ordering } ∧
          (found.elim (words "") fun keys =>
            (words " ").append (Expression.sort keys).sketch).Writes settings before
              (SelectDraft.clause "" ordering) after := by
  cases found with
  | none => exact .pure ⟨draft.stage, none, by rw [← missing], .words ""⟩
  | some keys =>
      refine (SelectDraft.withSort_ensures
        (guides_fragment (answer_guided (.sort keys)) before)).weaken ?_
      rintro _ _ ⟨text, rfl, writes⟩
      exact ⟨.sort, some text, rfl, writes.after_words " "⟩

end Stages

theorem composeSelect_guided {operation : Operation} (isSelect : operation.kind = .select) :
    (operation.composeSelect .standard).Ensures settings before fun composed after =>
      operation.sketch.Writes settings before composed.text after := by
  refine (SelectDraft.withTarget_ensures
    (guides_fragment (answer_guided (.target operation.target)) before)).bind ?_
  rintro _ _ ⟨source, rfl, writesSource⟩
  refine (filterStage_guided operation.filter rfl).bind ?_
  rintro _ _ ⟨_, condition, rfl, writesCondition⟩
  refine (aggregationStage_guided operation.aggregation rfl).bind ?_
  rintro _ _ ⟨_, grouping, rfl, writesGrouping⟩
  refine (sortStage_guided operation.sort rfl).bind ?_
  rintro _ between ⟨_, ordering, rfl, writesOrdering⟩
  refine (SelectDraft.withProjection_ensures
    (guidesPlan_plan (answer_guided (.projection (operation.projection.getD Projection.entity)))
      between)).bind ?_
  rintro _ _ ⟨plan, rfl, writesPlan⟩
  refine (SelectDraft.assemble_ensures rfl rfl).bind ?_
  rintro _ _ ⟨rfl, rfl⟩
  simp only [Expression.sketch] at writesSource writesPlan
  have clauses := writesCondition.append (writesGrouping.append writesOrdering)
  have written := writesSource.select operation.distinct clauses writesPlan
  refine .pure ?_
  simp only [Operation.sketch, Operation.clauses, isSelect, SelectDraft.wording,
    String.append_assoc] at written ⊢
  exact written

/-! ## Writes -/

namespace WriteDraft

variable {draft : WriteDraft}

/-- Only a string is assigned in another way than it is written elsewhere. -/
theorem assignedSketch_eq_sketch
    {value : Expression}
    (notString : ∀ text, value ≠ .constant (.string text)) :
    value.assignedSketch = value.sketch := by
  unfold Expression.assignedSketch
  split
  · next text => exact absurd rfl (notString text)
  · rfl

/-- A string that does not look like a reference is bound like any other constant. -/
theorem assigned_write_bound
    {text : String}
    (bound : settings.dialect.looksLikeReference text = false) :
    (Filling.assigned text).write settings before = constant (.string text) settings before := by
  simp [Filling.write, bind_apply, Resolution.dialect, bound]

/-- A string that looks like a reference is written as it stands. -/
theorem assigned_write_copied
    {text : String}
    (copied : settings.dialect.looksLikeReference text = true) :
    (Filling.assigned text).write settings before = (.ok text, before) := by
  simp [Filling.write, bind_apply, Resolution.dialect, copied]

theorem assigned_guided (path : Path) (value : Expression) :
    Sketch.Guides settings (.expecting path.valueType value.assignedSketch)
      (assigned .standard path value) := by
  intro before
  refine .bindDialect ?_
  split
  · next text =>
      cases looks : settings.dialect.looksLikeReference text with
      | true =>
          have copied : (Sketch.filling (.assigned text)).Writes settings
              { before with hint := some path.valueType } text
              { before with hint := some path.valueType } := .filling (assigned_write_copied looks)
          exact .pure copied.expecting
      | false =>
          have bound : Sketch.GuidesAnswer settings (.filling (.assigned text))
              (answer .standard (.constant (.string text))) := by
            simp only [answer]
            refine Sketch.Guides.answer fun before text after written => .filling ?_
            rw [assigned_write_bound looks]
            exact written
          exact (guides_fragment fun _ => bound).withHint path.valueType before
  · next notString =>
      rw [assignedSketch_eq_sketch notString]
      exact (guides_fragment (answer_guided value)).withHint path.valueType before

theorem withAssignment_guided (path : Path) (value : Expression) :
    (draft.withAssignment .standard path value).Ensures settings before fun draft' after =>
      ∃ text, draft' = { draft with assignments := draft.assignments ++ [text] } ∧
        (Operation.assignmentSketch (path, value)).Writes settings before text after := by
  unfold withAssignment
  split
  · exact .fail _
  · split
    · exact .fail _
    · refine Ensures.bind (guides_fragment (answer_guided (.path path)) before)
        fun column between writesColumn => ?_
      refine Ensures.bind (assigned_guided path value between) fun text after writes =>
        .pure ⟨_, rfl, ?_⟩
      simp only [Expression.sketch] at writesColumn
      rw [String.append_assoc]
      exact writesColumn.append (writes.after_words "=")

theorem withAssignments_guided (values : List (Path × Expression)) :
    (withAssignments .standard draft values).Ensures settings before fun draft' after =>
      ∃ assignments, draft' = { draft with assignments := draft.assignments ++ assignments } ∧
        WritesEach settings (values.map Operation.assignmentSketch) before assignments after := by
  induction values generalizing before draft with
  | nil => exact .pure ⟨[], by simp, .nil before⟩
  | cons assignment rest inductionHypothesis =>
      refine (withAssignment_guided assignment.1 assignment.2).bind ?_
      rintro _ _ ⟨text, rfl, writes⟩
      refine inductionHypothesis.weaken ?_
      rintro _ _ ⟨assignments, rfl, each⟩
      exact ⟨text :: assignments, by simp, .cons writes each⟩

theorem filterStage_guided (found : Option Filter) (missing : draft.condition = none) :
    (Operation.stage (fun draft condition => draft.withFilter .standard condition) draft
      found).Ensures settings before fun draft' after =>
        ∃ condition, draft' = { draft with condition } ∧
          (Filter.sketchAfter " WHERE " found).Writes settings before
            (SelectDraft.clause "WHERE " condition) after := by
  cases found with
  | none => exact .pure ⟨none, by rw [← missing], .words ""⟩
  | some condition =>
      simp only [Operation.stage, withFilter]
      split
      · exact .fail _
      · refine Ensures.bind (guides_predicate (answer_guided (.filter condition)) before)
          fun text after writes => .pure ⟨some text, rfl, ?_⟩
        simp only [Expression.sketch] at writes
        exact writes.after_words " WHERE "

end WriteDraft

theorem composeWrite_guided {operation : Operation} (valid : operation.validate = .ok ()) :
    (operation.composeWrite .standard).Ensures settings before fun composed after =>
      operation.sketch.Writes settings before composed.text after := by
  simp only [Operation.validate, Validation.andThen_ok_iff, Validation.require_ok_iff,
    Bool.or_eq_true, beq_iff_eq, List.isEmpty_iff] at valid
  obtain ⟨validTarget, -, -, -, -, assignsOnUpdate, -⟩ := valid
  have starts : (WriteDraft.start operation.kind).Ensures settings before fun draft after =>
      draft = ⟨operation.kind, none, [], none⟩ ∧ after = before ∧
        (operation.kind = .update ∨ operation.kind = .delete) := by
    cases given : operation.kind with
    | update => exact .pure ⟨rfl, rfl, .inl rfl⟩
    | delete => exact .pure ⟨rfl, rfl, .inr rfl⟩
    | insert => exact .unsupported _
    | select => exact .fail _
  refine starts.bind ?_
  rintro _ before ⟨rfl, rfl, kinds⟩
  have targets : (WriteDraft.withTarget ⟨operation.kind, none, [], none⟩
      operation.target).Ensures settings before fun draft after =>
        ∃ declaration, draft = ⟨operation.kind, some declaration, [], none⟩ ∧
          (Sketch.declaration operation.target).Writes settings before declaration after := by
    simp only [WriteDraft.withTarget, Option.isSome_none, Bool.false_eq_true, if_false]
    split
    · exact .unsupported _
    · have declares : (introduce operation.target).Ensures settings before _ :=
        introduce_guided (Validation.of_target validTarget).1
      exact declares.bind fun binding after writes => .pure ⟨binding.declaration, rfl, writes⟩
  refine targets.bind ?_
  rintro _ _ ⟨declaration, rfl, writesTarget⟩
  refine (WriteDraft.withAssignments_guided operation.values).bind ?_
  rintro _ _ ⟨assignments, rfl, each⟩
  refine (WriteDraft.filterStage_guided operation.filter rfl).bind ?_
  rintro _ _ ⟨condition, rfl, writesCondition⟩
  refine Ensures.bind (.ofExcept fun text assembled => ?_) fun text after writes => .pure writes
  rcases kinds with isUpdate | isDelete
  · simp only [WriteDraft.assemble, isUpdate, if_true] at assembled
    split at assembled
    · simp at assembled
    · cases assembled
      have written := (writesTarget.append
        (((each.separated ", ").append writesCondition).after_words " SET ")).after_words "UPDATE "
      simp only [Operation.sketch, isUpdate]
      simpa only [String.append_assoc, List.nil_append] using written
  · have unassigned : operation.values = [] := by simpa [isDelete] using assignsOnUpdate
    simp only [WriteDraft.assemble, isDelete, reduceCtorEq, if_false] at assembled
    cases assembled
    rw [unassigned] at each
    cases each
    have written := (writesTarget.append writesCondition).after_words "DELETE FROM "
    simp only [Operation.sketch, isDelete]
    simpa only [String.append_assoc] using written

/-! ## Statements -/

/-- A composed operation follows its sketch in a guarded run. -/
theorem compose_writes (operation : Operation) :
    (operation.compose .standard).Ensures settings before fun composed after =>
      operation.sketch.Writes settings before composed.text after := by
  refine .bindContext ?_
  split
  · refine .bindChecked fun valid => ?_
    split
    · next isSelect => exact composeSelect_guided isSelect
    · exact composeWrite_guided valid
  · exact .fail _

/-- A composed operation follows its sketch. -/
theorem compose_guided (operation : Operation) :
    (operation.compose .standard).Ensures settings before fun composed after =>
      operation.sketch.Renders settings before composed.text after :=
  (compose_writes operation).weaken fun _ _ writes => writes.renders

end ObjectQuery
