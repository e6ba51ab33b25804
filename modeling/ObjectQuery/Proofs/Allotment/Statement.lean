import ObjectQuery.Compiler.Basic
import ObjectQuery.Proofs.Allotment.Nodes
import ObjectQuery.Proofs.Ensures
import ObjectQuery.Sample

/-!
# Which operations have a duplicate alias

A compilation allots aliases as the events of the operation say. It reports a duplicate alias
only where the events end with that alias refused; if no alias is given twice, an unnamed
target has then been allotted, as a made-up alias, the one that is given to a target after it.
-/

namespace ObjectQuery

open Resolution
open Sketch (aliasEvents)

variable {settings : Settings}

/-! ## Selects -/

/-- A clause that is missing has no events. -/
theorem Operation.stage_allots
    {clause draft : Type}
    {add : draft → clause → Resolution draft}
    {events : clause → List AliasEvent}
    (adds : ∀ draft clause, (add draft clause).Allots settings (events clause))
    (current : draft)
    (found : Option clause) :
    (Operation.stage add current found).Allots settings (found.elim [] events) := by
  cases found with
  | none => exact .pure _
  | some found => exact adds current found

theorem Filter.aliasEvents_sketchAfter (opening : String) (found : Option Filter) :
    (Filter.sketchAfter opening found).aliasEvents =
      found.elim [] fun condition => condition.sketch.aliasEvents := by
  cases found with
  | none => rfl
  | some condition => simp [Filter.sketchAfter, aliasEvents]

theorem Operation.aliasEvents_clauses (operation : Operation) :
    operation.clauses.aliasEvents =
      (operation.filter.elim [] fun condition => condition.sketch.aliasEvents) ++
        ((operation.aggregation.elim [] fun grouping => grouping.sketch.aliasEvents) ++
          (operation.sort.elim [] fun keys => (Expression.sort keys).sketch.aliasEvents)) := by
  simp only [Operation.clauses, aliasEvents, Filter.aliasEvents_sketchAfter]
  cases operation.aggregation <;> cases operation.sort <;> simp [aliasEvents]

theorem Operation.composeSelect_allots
    {operation : Operation}
    (isSelect : operation.kind = .select) :
    (operation.composeSelect .standard).Allots settings operation.sketch.aliasEvents := by
  simp only [Operation.sketch, isSelect, aliasEvents, Operation.aliasEvents_clauses,
    List.append_assoc]
  refine (SelectDraft.withTarget_allots (Resolvers.fragment_allots
    (BuiltIn.answer_allots (.target operation.target))) _).bind fun draft => ?_
  refine (Operation.stage_allots (fun draft condition => SelectDraft.withFilter_allots
    (Resolvers.predicate_allots (BuiltIn.answer_allots (.filter condition))) draft) draft
      operation.filter).bind fun draft => ?_
  refine (Operation.stage_allots (fun draft grouping => SelectDraft.withAggregation_allots
    (Resolvers.fragment_allots (BuiltIn.answer_allots (.aggregation grouping))) draft) draft
      operation.aggregation).bind fun draft => ?_
  refine (Operation.stage_allots (fun draft keys => SelectDraft.withSort_allots
    (Resolvers.fragment_allots (BuiltIn.answer_allots (.sort keys))) draft) draft
      operation.sort).bind fun draft => ?_
  refine (SelectDraft.withProjection_allots (Resolvers.plan_allots
    (BuiltIn.answer_allots (.projection _))) draft).thenSilent fun draft => ?_
  exact draft.assemble_allots.afterSilent fun _ => .pure _

/-! ## Writes -/

namespace WriteDraft

/-- A string has no events, whichever way it is assigned. -/
theorem aliasEvents_assignedSketch (value : Expression) :
    value.assignedSketch.aliasEvents = value.sketch.aliasEvents := by
  unfold Expression.assignedSketch
  split
  · rfl
  · rfl

theorem aliasEvents_assignmentSketch (assignment : Path × Expression) :
    (Operation.assignmentSketch assignment).aliasEvents =
      assignment.2.sketch.aliasEvents := by
  simp [Operation.assignmentSketch, aliasEvents, aliasEvents_assignedSketch]

theorem assigned_allots (path : Path) (value : Expression) :
    (assigned .standard path value).Allots settings value.sketch.aliasEvents := by
  have resolved : (Resolution.withHint path.valueType
      (Resolvers.standard.fragmentOf value)).Allots settings value.sketch.aliasEvents :=
    (Resolvers.fragment_allots (BuiltIn.answer_allots value)).withHint _
  refine .afterSilent .dialect fun dialect => ?_
  split
  · split
    · exact .pure _
    · exact resolved
  · exact resolved

theorem withAssignment_allots (draft : WriteDraft) (path : Path) (value : Expression) :
    (draft.withAssignment .standard path value).Allots settings value.sketch.aliasEvents := by
  unfold withAssignment
  split
  · exact .fail (by simp)
  · split
    · exact .fail (by simp)
    · have columns : (Resolvers.standard.fragmentOf (.path path)).Allots settings [] :=
        Resolvers.fragment_allots (BuiltIn.answer_allots (.path path))
      exact columns.afterSilent fun _ => (assigned_allots path value).thenSilent fun _ => .pure _

theorem withAssignments_allots (values : List (Path × Expression)) (draft : WriteDraft) :
    (withAssignments .standard draft values).Allots settings
      (values.flatMap fun assignment => assignment.2.sketch.aliasEvents) := by
  induction values generalizing draft with
  | nil => exact .pure _
  | cons assignment rest inductionHypothesis =>
      rw [List.flatMap_cons]
      exact (withAssignment_allots draft assignment.1 assignment.2).bind inductionHypothesis

theorem withFilter_allots (draft : WriteDraft) (condition : Filter) :
    (draft.withFilter .standard condition).Allots settings condition.sketch.aliasEvents := by
  unfold withFilter
  split
  · exact .fail (by simp)
  · exact (Resolvers.predicate_allots (BuiltIn.answer_allots (.filter condition))).thenSilent
      fun _ => .pure _

theorem assemble_allots (draft : WriteDraft) : (ofExcept draft.assemble).Allots settings [] := by
  refine .ofExcept fun refused => ?_
  unfold assemble
  split
  · simp
  · split
    · split <;> simp
    · simp

end WriteDraft

theorem Operation.composeWrite_allots (operation : Operation) :
    (operation.composeWrite .standard).Allots settings
      (.declares operation.target ::
        ((operation.values.flatMap fun assignment => assignment.2.sketch.aliasEvents) ++
          operation.filter.elim [] fun condition => condition.sketch.aliasEvents)) := by
  have starts : (WriteDraft.start operation.kind).Allots settings [] := by
    unfold WriteDraft.start
    split
    · exact .pure _
    · exact .pure _
    · exact .unsupported _
    · exact .fail (by simp)
  have targets (draft : WriteDraft) :
      (draft.withTarget operation.target).Allots settings [.declares operation.target] := by
    unfold WriteDraft.withTarget
    split
    · exact .fail (by simp)
    · split
      · exact .unsupported _
      · exact (introduce_allots _).thenSilent fun _ => .pure _
  refine starts.afterSilent fun draft => (targets draft).bind fun draft => ?_
  refine (WriteDraft.withAssignments_allots operation.values draft).bind fun draft => ?_
  refine (Operation.stage_allots (fun draft condition => draft.withFilter_allots condition)
    draft operation.filter).thenSilent fun draft => ?_
  exact draft.assemble_allots.afterSilent fun _ => .pure _

/-- A bulk write declares its target, and then has the events of its values and condition. -/
theorem Operation.aliasEvents_sketch_of_bulk
    {operation : Operation}
    (valid : operation.validate = .ok ())
    (bulk : operation.kind = .update ∨ operation.kind = .delete) :
    operation.sketch.aliasEvents =
      .declares operation.target ::
        ((operation.values.flatMap fun assignment => assignment.2.sketch.aliasEvents) ++
          operation.filter.elim [] fun condition => condition.sketch.aliasEvents) := by
  simp only [Operation.validate, Validation.andThen_ok_iff, Validation.require_ok_iff,
    Bool.or_eq_true, beq_iff_eq, List.isEmpty_iff] at valid
  obtain ⟨-, -, -, -, -, assignsOnUpdate, -⟩ := valid
  rcases bulk with isUpdate | isDelete
  · simp [Operation.sketch, isUpdate, aliasEvents, Filter.aliasEvents_sketchAfter,
      List.flatMap_map, WriteDraft.aliasEvents_assignmentSketch]
  · have unassigned : operation.values = [] := by simpa [isDelete] using assignsOnUpdate
    simp [Operation.sketch, isDelete, aliasEvents, Filter.aliasEvents_sketchAfter, unassigned]

/-! ## Statements -/

theorem Operation.compose_allots (operation : Operation) :
    (operation.compose .standard).Allots settings operation.sketch.aliasEvents := by
  refine .afterSilent .context fun context => ?_
  split
  · refine .bindChecked fun valid => ?_
    split
    · next isSelect => exact Operation.composeSelect_allots isSelect
    · next isWrite =>
        cases kind : operation.kind with
        | select => exact absurd kind isWrite
        | insert =>
            have refused : WriteDraft.start operation.kind =
                (Resolution.unsupported "bulk insert" : Resolution WriteDraft) := by
              rw [kind, WriteDraft.start]
            unfold Operation.composeWrite
            rw [refused]
            exact fun _ _ _ => nofun
        | update =>
            rw [Operation.aliasEvents_sketch_of_bulk valid (.inl kind)]
            exact operation.composeWrite_allots
        | delete =>
            rw [Operation.aliasEvents_sketch_of_bulk valid (.inr kind)]
            exact operation.composeWrite_allots
  · exact .fail (by simp)

namespace Compiler

/-- The state in which the compiler starts to allot aliases to an operation. -/
def aliasStart (compiler : Compiler) (operation : Operation) : AliasState :=
  .start (compiler.config.aliasMode.forStatement operation.kind
    (compiler.aliasesTarget operation.kind))

/-- A compiled operation has used the aliases that its events allot. A duplicate alias is
reported only where the events end with that alias refused; and if no alias is given twice in
the operation, it was made up for an unnamed target before the one that it is given to. -/
theorem compile_allots_aliases
    (compiler : Compiler)
    (operation : Operation)
    (standard : compiler.registry = Resolvers.standard) :
    (∀ statement, (compiler.compile operation).1 = .ok statement →
      ∃ composed after,
        operation.compose compiler.registry compiler.settings (compiler.context operation) =
            (.ok composed, after) ∧
          (compiler.aliasStart operation).run operation.sketch.aliasEvents =
            .ok after.aliasState) ∧
      ∀ aliasName,
        (compiler.compile operation).1 = .error (.resolve (.duplicateAlias aliasName)) →
          (compiler.aliasStart operation).run operation.sketch.aliasEvents = .error aliasName ∧
            ((operation.sketch.aliasEvents.filterMap AliasEvent.given?).Nodup →
              (compiler.aliasStart operation).Anticipates operation.sketch.aliasEvents
                aliasName) := by
  have allotted : Allotted operation.sketch.aliasEvents (compiler.context operation)
      (operation.compose .standard compiler.settings (compiler.context operation)) :=
    operation.compose_allots _ (Context.tallied_root _ _)
  rw [← standard] at allotted
  refine ⟨fun statement compiled => ?_, fun aliasName duplicate => ?_⟩
  · obtain ⟨composed, after, run, -⟩ := exists_composed compiled
    rw [run] at allotted
    exact ⟨composed, after, run, allotted.2.2⟩
  · have refused : (compiler.aliasStart operation).run operation.sketch.aliasEvents =
        .error aliasName := by
      unfold compile at duplicate
      split at duplicate
      · cases duplicate
      · next error after run =>
          rw [run] at allotted
          exact allotted aliasName (by simpa using duplicate)
    exact ⟨refused, fun distinct => AliasState.anticipates_of_run distinct refused⟩

/-- An order is joined with a second one, which alone is given an alias. The alias that is made
up for the first comes before it, and is refused to the second. -/
theorem anticipated_alias_refused :
    let compiler : Compiler :=
      ⟨.standard .hibernate, (Configuration.standard .hibernate).dialect, .standard, none⟩
    let pairs (aliasName : String) : Operation :=
      Operation.of .select
        ((Target.named "order").join .inner ((Target.named "order").withAlias aliasName) none)
    ((compiler.compile (pairs "orde_0_1")).1.toOption.map Statement.text =
        some "SELECT orde_0_0 FROM order orde_0_0 INNER JOIN order orde_0_1") ∧
      (compiler.compile (pairs "orde_0_0")).1 = .error (.resolve (.duplicateAlias "orde_0_0")) ∧
      (compiler.aliasStart (pairs "orde_0_0")).Anticipates (pairs "orde_0_0").sketch.aliasEvents
        "orde_0_0" := by
  intro compiler pairs
  have refused : (compiler.compile (pairs "orde_0_0")).1 =
      .error (.resolve (.duplicateAlias "orde_0_0")) :=
    Except.eq_error_of_match (by decide +kernel)
  refine ⟨by decide +kernel, refused, ?_⟩
  exact ((compile_allots_aliases compiler _ rfl).2 "orde_0_0" refused).2 (by decide +kernel)

end Compiler
end ObjectQuery
