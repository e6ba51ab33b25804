import ObjectQuery.Compiler.Basic
import ObjectQuery.Proofs.Parts.Clauses
import ObjectQuery.Sample

/-!
# What a statement holds of its operation

A compiled statement is put together from the parts that its kind has a place for, each of
them rendered in turn. Parts that say how rows are read have no place in a write: they are
checked like all others, and then make no difference.
-/

namespace ObjectQuery

open Resolution OperationPart

variable {settings : Settings} {before after : Context}

/-! ## Selects -/

section Stages

variable {draft : SelectDraft}

theorem filterStage_composes (found : Option Filter) (missing : draft.condition = none) :
    (Operation.stage
      (fun draft condition =>
        draft.withFilter (Resolvers.standard.conditionOf (.filter condition)))
      draft found).Ensures settings before fun draft' after =>
        ∃ condition, (∃ stage, draft' = { draft with stage, condition }) ∧
          Composes settings (found.toList.map .filter) before
            (SelectDraft.clause "WHERE " condition) after := by
  rw [List.map_eq_flatMap]
  refine stage_composes found _ _ _ ⟨draft.stage, by rw [← missing]⟩ fun condition => ?_
  refine (SelectDraft.withFilter_ensures fun _ _ run => run).weaken ?_
  rintro _ _ ⟨text, rfl, run⟩
  exact ⟨text, ⟨.filter, rfl⟩, filter_composes run⟩

theorem aggregationStage_composes (found : Option Aggregation) (missing : draft.grouping = none) :
    (Operation.stage
      (fun draft grouping =>
        draft.withAggregation (Resolvers.standard.fragmentOf (.aggregation grouping)))
      draft found).Ensures settings before fun draft' after =>
        ∃ grouping, (∃ stage, draft' = { draft with stage, grouping }) ∧
          Composes settings (found.toList.flatMap Aggregation.parts) before
            (SelectDraft.clause "" grouping) after := by
  refine stage_composes found _ _ _ ⟨draft.stage, by rw [← missing]⟩ fun grouping => ?_
  refine (SelectDraft.withAggregation_ensures fun _ _ run => run).weaken ?_
  rintro _ _ ⟨text, rfl, run⟩
  exact ⟨text, ⟨.aggregation, rfl⟩, aggregation_composes run⟩

theorem sortStage_composes (found : Option (List SortKey)) (missing : draft.ordering = none) :
    (Operation.stage
      (fun draft keys => draft.withSort (Resolvers.standard.fragmentOf (.sort keys)))
      draft found).Ensures settings before fun draft' after =>
        ∃ ordering, (∃ stage, draft' = { draft with stage, ordering }) ∧
          Composes settings (found.toList.map .sort) before
            (SelectDraft.clause "" ordering) after := by
  rw [List.map_eq_flatMap]
  refine stage_composes found _ _ _ ⟨draft.stage, by rw [← missing]⟩ fun keys => ?_
  refine (SelectDraft.withSort_ensures fun _ _ run => run).weaken ?_
  rintro _ _ ⟨text, rfl, run⟩
  exact ⟨text, ⟨.sort, rfl⟩, sort_composes run⟩

end Stages

/-! ## Courses of statements -/

/-- The course of a statement: its source, and then the parts that it holds. -/
structure StatementCourse (operation : Operation) (settings : Settings)
    (before after : Context) where
  source : String
  written : List (OperationPart × String)
  atSource : Context
  sources : operation.source settings before = (.ok source, atSource)
  holds : Written settings written atSource after
  parts : written.map Prod.fst = operation.heldParts

/-- The words of the statement. -/
def StatementCourse.text {operation : Operation}
    (course : StatementCourse operation settings before after) : String :=
  operation.kind.wording course.source course.written

/-! ### Selects -/

/-- The heads of a select, its clauses between them. -/
theorem exists_select_course
    {operation : Operation}
    {source clauses : String}
    {plan : ProjectionPlan}
    {atSource atClauses : Context}
    (isSelect : operation.kind = .select)
    (noValues : operation.values = [])
    (sources : Resolvers.standard.fragmentOf (.target operation.target) settings before =
      (.ok source, atSource))
    (composes : Composes settings operation.clauseParts atSource clauses atClauses)
    (plans : Resolvers.standard.planOf
      (.projection (operation.projection.getD Projection.entity)) settings atClauses =
        (.ok plan, after)) :
    ∃ course : StatementCourse operation settings before after,
      course.text = "SELECT " ++ (if operation.distinct then "DISTINCT " else "") ++
        plan.selectList ++ " FROM " ++ source ++ clauses := by
  obtain ⟨written, holds, parts, rfl⟩ := composes
  let selected := OperationPart.projection (operation.projection.getD Projection.entity)
  let distincts : List (OperationPart × String) :=
    if operation.distinct then [(.distinct, "DISTINCT ")] else []
  have noHead : textsAt .head written = [] := textsAt_eq_nil fun part member => by
    rw [parts] at member
    simp [Operation.place_of_mem_clauseParts member]
  have renders : selected.render settings atClauses = (.ok plan.selectList, after) := by
    rw [render, bind_run plans, pure_apply]
  have visible := ProjectionPlan.isBlank_selectList (Resolvers.plan_run plans).1
  have distinctHolds : Written settings distincts atSource atSource := by
    unfold distincts
    split
    · exact .one rfl (by decide)
    · exact .nothing
  refine ⟨⟨source, distincts ++ (written ++ [(selected, plan.selectList)]), atSource, ?_,
    distinctHolds.append (holds.append (.one renders visible)), ?_⟩, ?_⟩
  · rw [Operation.source, if_pos isSelect, sources]
  · rw [Operation.heldParts_select isSelect noValues, List.map_append, List.map_append, parts]
    unfold distincts
    split <;> rfl
  · have firstHead : String.join (textsAt .head distincts) =
        if operation.distinct then "DISTINCT " else "" := by
      unfold distincts
      split <;> rfl
    have lastHead : textsAt .head [(selected, plan.selectList)] = [plan.selectList] := by
      simp [textsAt, selected, place, words]
    have firstClause : textsAt .clause distincts = [] := by
      unfold distincts
      split <;> rfl
    have lastClause : textsAt .clause [(selected, plan.selectList)] = [] := rfl
    simp only [StatementCourse.text, isSelect, OperationKind.wording, textsAt_append, noHead,
      lastHead, firstClause, lastClause, List.nil_append, List.append_nil, String.join_append,
      String.join_cons, String.join_nil, String.append_empty, firstHead, String.append_assoc]

theorem composeSelect_holds
    {operation : Operation}
    (isSelect : operation.kind = .select)
    (noValues : operation.values = []) :
    (operation.composeSelect .standard).Ensures settings before fun composed after =>
      ∃ course : StatementCourse operation settings before after, composed.text = course.text := by
  refine (SelectDraft.withTarget_ensures fun _ _ run => run).bind ?_
  rintro _ atSource ⟨source, rfl, sources⟩
  refine (filterStage_composes operation.filter rfl).bind ?_
  rintro _ _ ⟨condition, ⟨_, rfl⟩, conditions⟩
  refine (aggregationStage_composes operation.aggregation rfl).bind ?_
  rintro _ _ ⟨grouping, ⟨_, rfl⟩, groupings⟩
  refine (sortStage_composes operation.sort rfl).bind ?_
  rintro _ _ ⟨ordering, ⟨_, rfl⟩, orderings⟩
  refine (SelectDraft.withProjection_ensures fun _ _ run => run).bind ?_
  rintro _ _ ⟨plan, rfl, plans⟩
  refine (SelectDraft.assemble_ensures rfl rfl).bind ?_
  rintro _ _ ⟨rfl, rfl⟩
  obtain ⟨course, text⟩ := exists_select_course isSelect noValues sources
    (conditions.append (groupings.append orderings)) plans
  refine .pure ⟨course, ?_⟩
  rw [text]
  simp only [SelectDraft.wording, String.append_assoc]
  rfl

/-! ### Writes -/

theorem withAssignments_holds (values : List (Path × Expression)) (draft : WriteDraft) :
    (WriteDraft.withAssignments .standard draft values).Ensures settings before
      fun draft' after => ∃ written,
        draft' = { draft with assignments := draft.assignments ++ textsAt .assignment written } ∧
          Written settings written before after ∧
            written.map Prod.fst = values.map .assignment := by
  induction values generalizing draft before with
  | nil => exact .pure ⟨[], by simp [textsAt], .nothing, rfl⟩
  | cons found rest inductionHypothesis =>
      intro draft' after run
      obtain ⟨next, between, assigns, run⟩ := exists_between run
      obtain ⟨-, -, text, renders, rfl⟩ := WriteDraft.withAssignment_run assigns
      obtain ⟨written, rfl, others, parts⟩ := inductionHypothesis _ _ _ run
      have visible : Text.isBlank text = false := by
        obtain ⟨column, atColumn, columns, renders⟩ := exists_between renders
        obtain ⟨value, atValue, -, renders⟩ := exists_between renders
        obtain ⟨rfl, rfl⟩ := by simpa using renders
        simp [Text.isBlank_append, (Resolvers.fragment_run columns).1]
      refine ⟨(.assignment found, text) :: written, ?_, .next renders visible others, ?_⟩
      · simp [textsAt, place, words]
      · rw [List.map_cons, parts, List.map_cons]

theorem writtenFilter_composes
    {draft : WriteDraft}
    (found : Option Filter)
    (missing : draft.condition = none) :
    (Operation.stage (fun draft condition => WriteDraft.withFilter draft .standard condition)
      draft found).Ensures settings before fun draft' after =>
        ∃ condition, draft' = { draft with condition } ∧
          Composes settings (found.toList.map .filter) before
            (SelectDraft.clause "WHERE " condition) after := by
  rw [List.map_eq_flatMap]
  refine stage_composes found _ _ _ (by rw [← missing]) fun condition draft' after run => ?_
  obtain ⟨-, text, restricts, rfl⟩ := WriteDraft.withFilter_run run
  exact ⟨text, rfl, filter_composes restricts⟩

theorem composeWrite_holds
    {operation : Operation}
    (noValues : operation.kind ≠ .update → operation.values = []) :
    (operation.composeWrite .standard).Ensures settings before fun composed after =>
      (operation.kind = .update ∨ operation.kind = .delete) ∧
        ∃ course : StatementCourse operation settings before after,
          composed.text = course.text := by
  intro composed after run
  obtain ⟨draft, atStart, starts, run⟩ := exists_between run
  obtain ⟨isWrite, rfl, rfl⟩ := WriteDraft.start_run starts
  obtain ⟨draft, atSource, targets, run⟩ := exists_between run
  obtain ⟨-, -, binding, introduces, rfl⟩ := WriteDraft.withTarget_run targets
  obtain ⟨draft, atValues, assigns, run⟩ := exists_between run
  obtain ⟨assigned, rfl, assignedHold, assignedParts⟩ := withAssignments_holds _ _ _ _ assigns
  obtain ⟨draft, atFilter, restricts, run⟩ := exists_between run
  obtain ⟨condition, rfl, clauses, clausesHold, clauseParts, words⟩ :=
    writtenFilter_composes operation.filter rfl _ _ restricts
  obtain ⟨text, atEnd, assembles, run⟩ := exists_between run
  obtain ⟨assembled, rfl⟩ := Prod.mk.inj assembles
  obtain ⟨rfl, rfl⟩ := by simpa using run
  obtain ⟨-, rfl⟩ := WriteDraft.assemble_eq_ok_iff.mp assembled
  have elsewhere : textsAt .clause assigned = [] ∧ textsAt .assignment clauses = [] := by
    constructor <;> refine textsAt_eq_nil fun part member => ?_
    · obtain ⟨found, -, rfl⟩ := List.mem_map.mp (assignedParts ▸ member)
      exact nofun
    · obtain ⟨found, -, rfl⟩ := List.mem_map.mp (clauseParts ▸ member)
      exact nofun
  have notSelect : operation.kind ≠ .select := by
    rcases isWrite with isUpdate | isDelete <;> simp [*]
  refine ⟨isWrite, ⟨binding.declaration, assigned ++ clauses, atSource, ?_,
    assignedHold.append clausesHold, ?_⟩, ?_⟩
  · rw [Operation.source, if_neg notSelect, bind_run introduces, pure_apply]
  · rw [Operation.heldParts_write, List.map_append, assignedParts, clauseParts]
    exact isWrite.imp_right fun isDelete => ⟨isDelete, noValues (by simp [isDelete])⟩
  · rcases isWrite with isWrite | isWrite <;>
      simp [StatementCourse.text, isWrite, OperationKind.wording, WriteDraft.wording,
        textsAt_append, elsewhere, words]

/-! ## Parts without a place -/

namespace Operation

/-- An operation without the parts that say how rows are read, if it is a write. -/
def expressed (operation : Operation) : Operation :=
  if operation.kind = .select then
    operation
  else
    { operation with aggregation := none, sort := none, projection := none, distinct := false }

variable {operation : Operation}

theorem assignment_mem_parts {found : Path × Expression}
    (member : .assignment found ∈ operation.parts) :
    found ∈ operation.values := by
  simp only [parts, List.mem_append, List.mem_map] at member
  rcases member with heads | ⟨same, known, eq⟩ | clauses | ⟨selected, -, eq⟩
  · split at heads <;> simp at heads
  · cases eq
    exact known
  · cases place_of_mem_clauseParts clauses
  · cases eq

/-- Where assignments are left to updates, only reading parts of writes have no place. -/
theorem isReading_of_expresses_eq_false
    {part : OperationPart}
    (isSelectOrWrite : operation.kind ≠ .insert)
    (noValues : operation.kind ≠ .update → operation.values = [])
    (member : part ∈ operation.parts)
    (unexpressed : operation.kind.expresses part = false) :
    operation.kind ≠ .select ∧ part.isReading = true := by
  cases part with
  | assignment found =>
      have known := assignment_mem_parts member
      by_cases isUpdate : operation.kind = .update
      · simp [isUpdate, OperationKind.expresses] at unexpressed
      · simp [noValues isUpdate] at known
  | filter condition =>
      cases kind : operation.kind <;> simp_all [OperationKind.expresses]
  | distinct | grouping | having | sort | projection =>
      refine ⟨fun isSelect => ?_, rfl⟩
      simp [isSelect, OperationKind.expresses] at unexpressed

theorem expressed_eq_self_iff :
    operation.expressed = operation ↔
      operation.kind = .select ∨ ∀ part ∈ operation.parts, part.isReading = false := by
  by_cases isSelect : operation.kind = .select
  · simp [expressed, isSelect]
  · rw [expressed, if_neg isSelect, or_iff_right isSelect]
    obtain ⟨kind, target, filter, aggregation, sort, projection, limit, offset, distinct, values,
      lockMode, hints⟩ := operation
    constructor
    · intro same part member
      cases same
      simp only [parts, clauseParts, readingClauses, Option.toList_none, List.map_nil,
        List.flatMap_nil, List.append_nil, List.mem_append, List.mem_map] at member
      rcases member with head | ⟨found, -, rfl⟩ | ⟨condition, -, rfl⟩
      · simp at head
      · rfl
      · rfl
    · intro free
      have noAggregation : aggregation = none := by
        rcases aggregation with _ | ⟨keys, having⟩
        · rfl
        · cases free (.grouping keys)
            (by simp [parts, clauseParts, readingClauses, Aggregation.parts])
      have noSort : sort = none := by
        cases sort with
        | none => rfl
        | some keys => cases free (.sort keys) (by simp [parts, clauseParts, readingClauses])
      have noProjection : projection = none := by
        cases projection with
        | none => rfl
        | some selected => cases free (.projection selected) (by simp [parts])
      have notDistinct : distinct = false := by
        cases distinct with
        | false => rfl
        | true => cases free .distinct (by simp [parts])
      rw [noAggregation, noSort, noProjection, notDistinct]

/-- All parts have a place where none of them says in vain how rows are read. -/
theorem all_expressed_iff
    (isSelectOrWrite : operation.kind ≠ .insert)
    (noValues : operation.kind ≠ .update → operation.values = []) :
    (∀ part ∈ operation.parts, operation.kind.expresses part = true) ↔
      operation.expressed = operation := by
  rw [expressed_eq_self_iff]
  constructor
  · intro expressed
    refine Classical.or_iff_not_imp_left.mpr fun notSelect part member =>
      Bool.eq_false_iff.mpr fun isReading => ?_
    have unexpressed := OperationKind.expresses_eq_false_of_isReading notSelect isReading
    exact absurd (expressed part member) (by simp [unexpressed])
  · intro free part member
    cases unexpressed : operation.kind.expresses part with
    | true => rfl
    | false =>
        obtain ⟨notSelect, isReading⟩ :=
          isReading_of_expresses_eq_false isSelectOrWrite noValues member unexpressed
        have notReading := free.resolve_left notSelect part member
        exact absurd isReading (by simp [notReading])

/-- What is left out is valid with the rest. -/
theorem validate_expressed (valid : operation.validate = .ok ()) :
    operation.expressed.validate = .ok () := by
  unfold expressed
  split
  · exact valid
  · simp only [validate, validateClause, Validation.andThen_ok_iff] at valid ⊢
    exact ⟨valid.1, valid.2.1, trivial, trivial, trivial, valid.2.2.2.2.2⟩

end Operation

/-- The parts of a valid write that have no place make no difference. -/
theorem Compiler.compile_expressed
    (compiler : Compiler)
    {operation : Operation}
    (valid : operation.validate = .ok ()) :
    compiler.compile operation.expressed = compiler.compile operation := by
  have valid' := operation.validate_expressed valid
  unfold Operation.expressed at valid' ⊢
  split
  · rfl
  · next notSelect =>
      -- the parts that are left out are read by the check, and by nothing else
      rw [if_neg notSelect] at valid'
      have same : ∀ before,
          { operation with
              aggregation := none, sort := none, projection := none, distinct := false }.compose
            compiler.registry compiler.settings before =
              operation.compose compiler.registry compiler.settings before := by
        intro before
        simp only [Operation.compose, valid, valid', notSelect]
        rfl
      unfold compile
      rw [same]
      rfl

/-- A valid operation leaves assignments to updates. -/
theorem Operation.values_eq_nil
    {operation : Operation}
    (valid : operation.validate = .ok ()) :
    operation.kind ≠ .update → operation.values = [] := by
  simp only [validate, Validation.andThen_ok_iff, Validation.require_ok_iff, Bool.or_eq_true,
    beq_iff_eq, List.isEmpty_iff] at valid
  exact valid.2.2.2.2.2.1.resolve_left

theorem Operation.compose_holds (operation : Operation) (before : Context) :
    (operation.compose .standard).Ensures settings before fun composed after =>
      operation.validate = .ok () ∧ operation.kind ≠ .insert ∧
        ∃ course : StatementCourse operation settings before after,
          composed.text = course.text := by
  unfold compose
  refine .bindContext ?_
  split
  · refine .bindChecked fun valid => ?_
    have noValues := values_eq_nil valid
    split
    · next isSelect =>
        refine (composeSelect_holds isSelect (noValues (by simp [isSelect]))).weaken ?_
        rintro composed after holds
        exact ⟨valid, by simp [isSelect], holds⟩
    · refine (composeWrite_holds noValues).weaken ?_
      rintro composed after ⟨isWrite, holds⟩
      exact ⟨valid, by rcases isWrite with isUpdate | isDelete <;> simp [*], holds⟩
  · exact .fail _

/--
A compiled statement is put together from the parts of its operation that its kind has a place
for, in their order, and each of them occurs in it with what it is rendered as. A part without
a place is only compiled in an update or delete, and says how rows are read; it makes no
difference, so that nothing is left out only where the operation has no such part.
-/
theorem Compiler.compile_holds_parts
    {compiler : Compiler}
    {operation : Operation}
    {statement : Statement}
    (builtIn : compiler.registry = .standard)
    (compiled : (compiler.compile operation).1 = .ok statement) :
    (∃ after, ∃ course : StatementCourse operation compiler.settings
        (compiler.context operation) after,
      statement.text = course.text ∧ statement.parameters = after.parameters ∧
        ∀ part ∈ operation.parts, operation.kind.expresses part = true →
          ∃ text atPart atNext, part.render compiler.settings atPart = (.ok text, atNext) ∧
            Text.isBlank text = false ∧ Text.Occurs (part.words ++ text) statement.text) ∧
    (∀ part ∈ operation.parts, operation.kind.expresses part = false →
      (operation.kind = .update ∨ operation.kind = .delete) ∧ part.isReading = true) ∧
    compiler.compile operation.expressed = compiler.compile operation ∧
    ((∀ part ∈ operation.parts, operation.kind.expresses part = true) ↔
      operation.expressed = operation) := by
  obtain ⟨composed, after, run, rfl⟩ := exists_composed compiled
  rw [builtIn] at run
  obtain ⟨valid, notInsert, course, text⟩ := operation.compose_holds _ _ _ run
  have noValues := Operation.values_eq_nil valid
  refine ⟨⟨after, course, text, rfl, fun part member expressed => ?_⟩,
    fun part member unexpressed => ?_, compiler.compile_expressed valid,
    Operation.all_expressed_iff notInsert noValues⟩
  · have held : part ∈ course.written.map Prod.fst := by
      rw [course.parts]
      exact List.mem_append_left _ (List.mem_filter.mpr ⟨member, expressed⟩)
    obtain ⟨⟨part, rendered⟩, written, rfl⟩ := List.mem_map.mp held
    obtain ⟨visible, atPart, atNext, renders⟩ := course.holds.exists_render written
    refine ⟨rendered, atPart, atNext, renders, visible, ?_⟩
    show Text.Occurs _ composed.text
    rw [text]
    exact OperationKind.occurs_wording expressed course.source written
  · obtain ⟨notSelect, isReading⟩ :=
      Operation.isReading_of_expresses_eq_false notInsert noValues member unexpressed
    refine ⟨?_, isReading⟩
    cases kind : operation.kind <;> simp_all

/-- Cancelled orders are removed, those with the largest totals first. -/
def Sample.sortedPurge : Operation :=
  { purgeCancelled with sort := some [.mk (.path total) .descending] }

/-- An order of removal is compiled, and nothing comes of it. -/
theorem Compiler.sortedPurge_unsorted :
    let compiler : Compiler :=
      ⟨.standard .hibernate, .standard .hibernate, .standard, none⟩
    ∃ statement,
      (compiler.compile Sample.sortedPurge).1 = .ok statement ∧
        (compiler.compile Sample.purgeCancelled).1 = .ok statement ∧
        statement.text = "DELETE FROM order orde_0_0 WHERE orde_0_0.status=:p0001" ∧
        ¬ ∀ part ∈ Sample.sortedPurge.parts, Sample.sortedPurge.kind.expresses part = true := by
  intro compiler
  have shown : (compiler.compile Sample.sortedPurge).1.toOption.map Statement.text =
      some "DELETE FROM order orde_0_0 WHERE orde_0_0.status=:p0001" := by
    decide +kernel
  obtain ⟨statement, compiled, text⟩ := Except.exists_ok_of_map_toOption shown
  obtain ⟨-, -, unsorted, complete⟩ := @compile_holds_parts compiler _ _ rfl compiled
  have same : Sample.sortedPurge.expressed = Sample.purgeCancelled := rfl
  rw [same] at unsorted complete
  refine ⟨statement, compiled, by rw [unsorted, compiled], text, fun expressed => ?_⟩
  have sorts := congrArg Operation.sort (complete.mp expressed)
  cases sorts

end ObjectQuery
