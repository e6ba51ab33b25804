import ObjectQuery.Compiler.Basic
import ObjectQuery.Proofs.Nesting.Enclosed
import ObjectQuery.Proofs.Nesting.Nodes
import ObjectQuery.Sample

/-!
# Sub-queries in compiled statements

The text of a compiled statement is made up of the pieces of its operation's outline, so
that an enclosed outline tells of every sub-query of the statement what stands around it.
-/

namespace ObjectQuery

open Piece Resolution Outline

variable {settings : Settings} {before : Context}

/-! ## Stages of a select -/

section Stages

variable {draft : SelectDraft}

theorem filterStage_writesBy (found : Option Filter) (missing : draft.condition = none) :
    (Operation.stage
      (fun draft condition =>
        draft.withFilter (Resolvers.standard.conditionOf (.filter condition)))
      draft found).Ensures settings before fun draft' _ =>
        ∃ stage condition, draft' = { draft with stage, condition } ∧
          Fits (Filter.clause settings.dialect " WHERE " found)
            (SelectDraft.clause "WHERE " condition) := by
  cases found with
  | none => exact .pure ⟨draft.stage, none, by rw [← missing], rfl⟩
  | some condition =>
      refine (SelectDraft.withFilter_ensures
        (writesBy_predicate (answer_answersBy (.filter condition)) before)).weaken ?_
      rintro _ _ ⟨text, rfl, fits⟩
      exact ⟨.filter, some text, rfl, fits.afterWords " WHERE "⟩

theorem aggregationStage_writesBy (found : Option Aggregation) (missing : draft.grouping = none) :
    (Operation.stage
      (fun draft grouping =>
        draft.withAggregation (Resolvers.standard.fragmentOf (.aggregation grouping)))
      draft found).Ensures settings before fun draft' _ =>
        ∃ stage grouping, draft' = { draft with stage, grouping } ∧
          Fits (found.elim [] fun grouping => .words " " :: grouping.outline settings.dialect)
            (SelectDraft.clause "" grouping) := by
  cases found with
  | none => exact .pure ⟨draft.stage, none, by rw [← missing], rfl⟩
  | some grouping =>
      refine (SelectDraft.withAggregation_ensures
        (writesBy_fragment (answer_answersBy (.aggregation grouping)) before)).weaken ?_
      rintro _ _ ⟨text, rfl, fits⟩
      exact ⟨.aggregation, some text, rfl, fits.afterWords " "⟩

theorem sortStage_writesBy (found : Option (List SortKey)) (missing : draft.ordering = none) :
    (Operation.stage
      (fun draft keys => draft.withSort (Resolvers.standard.fragmentOf (.sort keys)))
      draft found).Ensures settings before fun draft' _ =>
        ∃ stage ordering, draft' = { draft with stage, ordering } ∧
          Fits (found.elim [] fun keys =>
              .words " " :: (Expression.sort keys).outline settings.dialect)
            (SelectDraft.clause "" ordering) := by
  cases found with
  | none => exact .pure ⟨draft.stage, none, by rw [← missing], rfl⟩
  | some keys =>
      refine (SelectDraft.withSort_ensures
        (writesBy_fragment (answer_answersBy (.sort keys)) before)).weaken ?_
      rintro _ _ ⟨text, rfl, fits⟩
      exact ⟨.sort, some text, rfl, fits.afterWords " "⟩

end Stages

theorem composeSelect_fits {operation : Operation} (isSelect : operation.kind = .select) :
    (operation.composeSelect .standard).Ensures settings before fun composed _ =>
      Fits (operation.outline settings.dialect) composed.text := by
  refine (SelectDraft.withTarget_ensures
    (writesBy_fragment (answer_answersBy (.target operation.target)) before)).bind ?_
  rintro _ _ ⟨source, rfl, fitsSource⟩
  refine (filterStage_writesBy operation.filter rfl).bind ?_
  rintro _ _ ⟨_, condition, rfl, fitsCondition⟩
  refine (aggregationStage_writesBy operation.aggregation rfl).bind ?_
  rintro _ _ ⟨_, grouping, rfl, fitsGrouping⟩
  refine (sortStage_writesBy operation.sort rfl).bind ?_
  rintro _ between ⟨_, ordering, rfl, fitsOrdering⟩
  refine (SelectDraft.withProjection_ensures
    (plansBy_plan (answer_answersBy (.projection (operation.projection.getD Projection.entity)))
      between)).bind ?_
  rintro _ _ ⟨plan, rfl, fitsPlan⟩
  refine (SelectDraft.assemble_ensures rfl rfl).bind ?_
  rintro _ _ ⟨rfl, rfl⟩
  simp only [Operation.outline, isSelect]
  exact .pure (fits_wording (.words "SELECT ") rfl fitsPlan fitsSource fitsCondition fitsGrouping
    fitsOrdering)

/-! ## Writes -/

namespace WriteDraft

variable {draft : WriteDraft}

/-- A string that is written as it stands fills a gap as any reference does. -/
theorem assigned_writesBy (path : Path) (value : Expression) :
    WritesBy settings (value.outline settings.dialect) (assigned .standard path value) := by
  have resolved : WritesBy settings (value.outline settings.dialect)
      (withHint path.valueType (Resolvers.standard.fragmentOf value)) :=
    (writesBy_fragment (answer_answersBy value)).withHint
  intro before
  refine .bindDialect ?_
  split
  · split
    · rw [Expression.outline]
      exact .pure (fits_gap _)
    · exact resolved before
  · exact resolved before

theorem withAssignment_fits (path : Path) (value : Expression) :
    (draft.withAssignment .standard path value).Ensures settings before fun draft' _ =>
      ∃ text, draft' = { draft with assignments := draft.assignments ++ [text] } ∧
        Fits (Operation.assignmentOutline settings.dialect (path, value)) text := by
  unfold withAssignment
  split
  · exact .fail _
  · split
    · exact .fail _
    · refine (writesBy_gap _ before).bind fun column between _ => ?_
      refine (assigned_writesBy path value between).bind fun text after fits => .pure ⟨_, rfl, ?_⟩
      rw [String.append_assoc]
      exact (fits.afterWords "=").afterGap column

theorem withAssignments_fits (values : List (Path × Expression)) :
    (withAssignments .standard draft values).Ensures settings before fun draft' _ =>
      ∃ assignments, draft' = { draft with assignments := draft.assignments ++ assignments } ∧
        List.Forall₂ Fits (values.map (Operation.assignmentOutline settings.dialect))
          assignments := by
  induction values generalizing before draft with
  | nil => exact .pure ⟨[], by simp, .nil⟩
  | cons assignment rest inductionHypothesis =>
      refine (withAssignment_fits assignment.1 assignment.2).bind ?_
      rintro _ _ ⟨text, rfl, fits⟩
      refine inductionHypothesis.weaken ?_
      rintro _ _ ⟨assignments, rfl, each⟩
      exact ⟨text :: assignments, by simp, .cons fits each⟩

theorem filterStage_fits (found : Option Filter) (missing : draft.condition = none) :
    (Operation.stage (fun draft condition => draft.withFilter .standard condition) draft
      found).Ensures settings before fun draft' _ =>
        ∃ condition, draft' = { draft with condition } ∧
          Fits (Filter.clause settings.dialect " WHERE " found)
            (SelectDraft.clause "WHERE " condition) := by
  cases found with
  | none => exact .pure ⟨none, by rw [← missing], rfl⟩
  | some condition =>
      simp only [Operation.stage, withFilter]
      split
      · exact .fail _
      · refine (writesBy_predicate (answer_answersBy (.filter condition)) before).bind
          fun text after fits => .pure ⟨some text, rfl, ?_⟩
        exact fits.afterWords " WHERE "

/-- The statement of a finished draft is made up of the pieces of its operation. -/
theorem fits_of_assemble
    {operation : Operation}
    {dialect : Dialect}
    {declaration text : String}
    {assignments : List String}
    {condition : Option String}
    (kinds : operation.kind = .update ∨ operation.kind = .delete)
    (each : List.Forall₂ Fits (operation.values.map (Operation.assignmentOutline dialect))
      assignments)
    (fitsCondition : Fits (Filter.clause dialect " WHERE " operation.filter)
      (SelectDraft.clause "WHERE " condition))
    (assembled : assemble ⟨operation.kind, some declaration, assignments, condition⟩ = .ok text) :
    Fits (operation.outline dialect) text := by
  rcases kinds with isUpdate | isDelete
  · simp only [assemble, isUpdate, if_true] at assembled
    split at assembled
    · simp at assembled
    · cases assembled
      have written := (((fits_separated ", " each).append fitsCondition).afterWords " SET ").afterGap
        declaration
      simpa [Operation.outline, isUpdate, String.append_assoc] using written.afterWords "UPDATE "
  · simp only [assemble, isDelete, reduceCtorEq, if_false] at assembled
    cases assembled
    have written := (fitsCondition.afterGap declaration).afterWords "DELETE FROM "
    simpa [Operation.outline, isDelete, String.append_assoc] using written

end WriteDraft

theorem composeWrite_fits {operation : Operation} (isWrite : operation.kind ≠ .select) :
    (operation.composeWrite .standard).Ensures settings before fun composed _ =>
      Fits (operation.outline settings.dialect) composed.text := by
  have starts : (WriteDraft.start operation.kind).Ensures settings before fun draft _ =>
      draft = ⟨operation.kind, none, [], none⟩ ∧
        (operation.kind = .update ∨ operation.kind = .delete) := by
    cases given : operation.kind with
    | update => exact .pure ⟨rfl, .inl rfl⟩
    | delete => exact .pure ⟨rfl, .inr rfl⟩
    | insert => exact .unsupported _
    | select => exact absurd given isWrite
  refine starts.bind ?_
  rintro _ between ⟨rfl, kinds⟩
  have targets : (WriteDraft.withTarget ⟨operation.kind, none, [], none⟩
      operation.target).Ensures settings between fun draft _ =>
        ∃ declaration, draft = ⟨operation.kind, some declaration, [], none⟩ := by
    simp only [WriteDraft.withTarget, Option.isSome_none, Bool.false_eq_true, if_false]
    split
    · exact .unsupported _
    · have bound : (introduce operation.target).Ensures settings between fun _ _ => True :=
        fun _ _ _ => trivial
      exact bound.bind fun binding after _ => .pure ⟨binding.declaration, rfl⟩
  refine targets.bind ?_
  rintro _ _ ⟨declaration, rfl⟩
  refine (WriteDraft.withAssignments_fits operation.values).bind ?_
  rintro _ _ ⟨assignments, rfl, each⟩
  refine (WriteDraft.filterStage_fits operation.filter rfl).bind ?_
  rintro _ _ ⟨condition, rfl, fitsCondition⟩
  exact Ensures.bind (.ofExcept fun text assembled =>
    WriteDraft.fits_of_assemble kinds each fitsCondition assembled) fun text after fits => .pure fits

/-! ## Statements -/

/-- Whatever an operation is composed to is made up of the pieces of its outline. -/
theorem compose_fits (operation : Operation) :
    (operation.compose .standard).Ensures settings before fun composed _ =>
      Fits (operation.outline settings.dialect) composed.text := by
  refine .bindContext ?_
  split
  · refine .bindChecked fun _ => ?_
    split
    · next isSelect => exact composeSelect_fits isSelect
    · next isWrite => exact composeWrite_fits isWrite
  · exact .fail _

section Clauses

variable {clause : Type} {closing before after : Bool}

theorem closed_elim (found : Option clause) (pieces : clause → List Piece) :
    closed false (found.elim [] fun given => .words " " :: pieces given) = false := by
  have neutral : Neutral " " := by decide
  cases found with
  | none => rfl
  | some given => rw [Option.elim_some, closed_cons, neutral.closes]

theorem enclosed_elim (found : Option clause) (pieces : clause → List Piece) :
    Enclosed closing before after (found.elim [] fun given => .words " " :: pieces given) ↔
      ∀ given, found = some given → Enclosed closing false after (pieces given) := by
  cases found with
  | none => simp
  | some given => simpa using enclosed_after (by decide)

theorem enclosed_assignments {dialect : Dialect} (values : List (Path × Expression)) :
    Enclosed closing before false
        (separated ", " (values.map (Operation.assignmentOutline dialect))) ↔
      ∀ assignment ∈ values, assignment.2.Encloses closing dialect false false := by
  induction values generalizing before with
  | nil => simp [separated]
  | cons assignment rest inductionHypothesis =>
      rw [List.map_cons, enclosed_separated (by decide), Bool.and_false,
        Operation.assignmentOutline, enclosed_gap, enclosed_after (by decide),
        Expression.enclosed_outline, List.forall_mem_cons]
      exact and_congr_right fun _ => inductionHypothesis

end Clauses

/-- An operation's pieces are enclosed exactly where its sub-queries are. -/
theorem Operation.enclosed_outline {closing : Bool} {dialect : Dialect} (operation : Operation) :
    Enclosed closing false false (operation.outline dialect) ↔
      operation.Encloses closing dialect := by
  have neutral : Neutral " WHERE " := by decide
  cases given : operation.kind with
  | select =>
      simp only [Operation.outline, Operation.Encloses, given]
      rw [enclosed_after (by decide), enclosed_marked, Bool.and_false, enclosed_parted (by decide),
        Projection.enclosed_outline, enclosed_append, enclosed_append, enclosed_append, closed_elim,
        closed_elim, Filter.closed_clause neutral, Bool.and_false, Target.enclosed_outline,
        Filter.enclosed_clause neutral, enclosed_elim, enclosed_elim]
      simp only [Aggregation.enclosed_outline, Expression.enclosed_outline, Expression.Encloses,
        and_assoc]
  | update =>
      simp only [Operation.outline, Operation.Encloses, given]
      rw [enclosed_after (by decide), enclosed_gap, enclosed_after (by decide), enclosed_append,
        Filter.closed_clause neutral, Bool.and_false, enclosed_assignments,
        Filter.enclosed_clause neutral]
  | delete =>
      simp only [Operation.outline, Operation.Encloses, given]
      rw [enclosed_after (by decide), enclosed_gap, Filter.enclosed_clause neutral]
  | insert => simp [Operation.outline, Operation.Encloses, given]

/-- The text of a compiled statement is made up of the pieces of its operation's outline. Its
sub-queries are enclosed, closing parentheses asked for or not, exactly where no operand of
the operation is a sub-query without parentheses; there each nested `SELECT` of the text
follows an opening parenthesis. -/
theorem Compiler.compile_subQueries_enclosed_iff
    {compiler : Compiler}
    {operation : Operation}
    {statement : Statement}
    (standard : compiler.registry = Resolvers.standard)
    (compiled : (compiler.compile operation).1 = .ok statement)
    (closing : Bool) :
    Fits (operation.outline compiler.dialect) statement.text ∧
      (Enclosed closing false false (operation.outline compiler.dialect) ↔
        operation.Encloses closing compiler.dialect) ∧
      (operation.Encloses closing compiler.dialect →
        ∀ left right, operation.outline compiler.dialect = left ++ .select :: right →
          ∃ leftText rightText, statement.text = leftText ++ "(SELECT " ++ rightText ∧
            Fits left (leftText ++ "(") ∧ Fits right rightText) := by
  have fits : Fits (operation.outline compiler.dialect) statement.text := by
    simp only [Compiler.compile, standard] at compiled
    split at compiled
    · next composed after run =>
        cases compiled
        exact compose_fits operation composed after run
    · simp at compiled
  refine ⟨fits, operation.enclosed_outline, fun encloses left right split => ?_⟩
  have enclosed := operation.enclosed_outline.mpr encloses
  rw [split] at enclosed fits
  exact enclosed.exists_text fits

/-- The status of orders set to a label that a sub-query selects: the sub-query stands bare. -/
theorem Compiler.assigned_subQuery_bare :
    let compiler : Compiler :=
      ⟨.standard .hibernate, (Configuration.standard .hibernate).dialect, .standard, none⟩
    let label := SubQuery.of (Target.named "setting") (.path (Path.of "label" .string))
    let operation := (Operation.of .update (Target.named "order")).set Sample.status (.subQuery label)
    ∃ statement,
      (compiler.compile operation).1 = .ok statement ∧
        statement.text = "UPDATE order orde_0_0 SET orde_0_0.status=" ++
          "SELECT sett_1_0.label FROM setting sett_1_0" ∧
        ¬ Enclosed false false false (operation.outline compiler.dialect) := by
  intro compiler label operation
  have shown : (compiler.compile operation).1.toOption.map Statement.text =
      some ("UPDATE order orde_0_0 SET orde_0_0.status=" ++
        "SELECT sett_1_0.label FROM setting sett_1_0") := by
    decide +kernel
  obtain ⟨statement, compiled, text⟩ := Except.exists_ok_of_map_toOption shown
  refine ⟨statement, compiled, text, fun enclosed => ?_⟩
  have encloses := (compile_subQueries_enclosed_iff rfl compiled false).2.1.mp enclosed
  have assigned : (Expression.subQuery label).Encloses false compiler.dialect false false :=
    encloses.1 _ (List.mem_singleton.mpr rfl)
  exact Bool.false_ne_true assigned.1

end ObjectQuery
