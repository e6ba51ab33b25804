import ObjectQuery.Compiler.Basic
import ObjectQuery.Proofs.Ensures
import ObjectQuery.Proofs.Inquiries.Nodes
import ObjectQuery.Sample

/-!
# Faults and nesting of operations

The composition of a valid operation descends through its inquiries from depth zero. None of
them is about a node at fault, so the check of the operation is the only place where one is
found, and it comes before anything is bound. The nesting limit is met exactly where an inquiry
lies beyond it.
-/

namespace ObjectQuery

open Resolution

variable {settings : Settings} {watchers : List Resolver}

namespace Filter

/-- A condition that may be missing is asked about if it is there. -/
theorem inquiriesIfAny_eq_elim (depth : Nat) (condition : Option Filter) :
    inquiriesIfAny depth condition =
      condition.elim [] fun condition => Inquiry.into depth (.filter condition) := by
  cases condition with
  | none => rw [inquiriesIfAny, Option.elim]
  | some condition => rw [inquiriesIfAny, Option.elim, Inquiry.into, Expression.inquiries]

end Filter

/-! ## Selects -/

/-- A clause that is missing is not asked about. -/
theorem Operation.stage_descends
    {clause draft : Type}
    {watched add : draft → clause → Resolution draft}
    {depth : Nat}
    {asked : clause → List Inquiry}
    (adds : ∀ draft clause,
      Descends (watched draft clause) (add draft clause) settings watchers depth (asked clause))
    (current : draft)
    (found : Option clause) :
    Descends (Operation.stage watched current found) (Operation.stage add current found) settings
      watchers depth (found.elim [] asked) := by
  cases found with
  | none => exact .pure _
  | some found => exact adds current found

theorem Operation.composeSelect_descends (operation : Operation) :
    Descends (operation.composeSelect (.watched watchers)) (operation.composeSelect .standard)
      settings watchers 0
      (Inquiry.into 0 (.target operation.target) ++
        (Filter.inquiriesIfAny 0 operation.filter ++
          (operation.aggregation.elim [] (fun grouping => Inquiry.into 0 (.aggregation grouping)) ++
            (operation.sort.elim [] (fun keys => Inquiry.into 0 (.sort keys)) ++
              Inquiry.into 0
                (.projection (operation.projection.getD Projection.entity)))))) := by
  rw [Filter.inquiriesIfAny_eq_elim]
  refine (SelectDraft.withTarget_descends
    (Resolvers.fragment_descends (BuiltIn.answer_descends _)) _).bind fun draft => ?_
  refine (Operation.stage_descends (fun draft condition => SelectDraft.withFilter_descends
    (Resolvers.predicate_descends (BuiltIn.answer_descends (.filter condition))) draft) draft
      operation.filter).bind fun draft => ?_
  refine (Operation.stage_descends (fun draft grouping => SelectDraft.withAggregation_descends
    (Resolvers.fragment_descends (BuiltIn.answer_descends (.aggregation grouping))) draft) draft
      operation.aggregation).bind fun draft => ?_
  refine (Operation.stage_descends (fun draft keys => SelectDraft.withSort_descends
    (Resolvers.fragment_descends (BuiltIn.answer_descends (.sort keys))) draft) draft
      operation.sort).bind fun draft => ?_
  refine (SelectDraft.withProjection_descends
    (Resolvers.plan_descends (BuiltIn.answer_descends (.projection _))) draft).thenLevel
      fun draft => ?_
  exact draft.assemble_level.bind fun _ => .pure _

/-! ## Writes -/

namespace WriteDraft

/-- A string that is assigned as it stands is not asked about after all. -/
theorem assigned_descends (path : Path) (value : Expression) :
    Descends (assigned (.watched watchers) path value) (assigned .standard path value) settings
      watchers 0 (Inquiry.into 0 value) := by
  have resolved : Descends
      (Resolution.withHint path.valueType ((Resolvers.watched watchers).fragmentOf value))
      (Resolution.withHint path.valueType (Resolvers.standard.fragmentOf value))
      settings watchers 0 (Inquiry.into 0 value) :=
    (Resolvers.fragment_descends (BuiltIn.answer_descends value)).withHint _
  refine .afterLevel .dialect fun dialect => ?_
  split
  · next text =>
      split
      · refine .ofUnasked (.pure _) ?_
        simp [Inquiry.into, Expression.inquiries]
      · exact resolved
  · exact resolved

theorem withAssignment_descends (draft : WriteDraft) (path : Path) (value : Expression) :
    Descends (draft.withAssignment (.watched watchers) path value)
      (draft.withAssignment .standard path value) settings watchers 0
      (Operation.assignmentInquiries (path, value)) := by
  unfold withAssignment
  split
  · exact .fail rfl
  · split
    · exact .fail rfl
    · have columns : Descends
          ((Resolvers.watched watchers).fragmentOf (.path path))
          (Resolvers.standard.fragmentOf (.path path)) settings watchers 0 [⟨0, .path path⟩] := by
        have answers : Descends _ _ settings watchers 0 _ :=
          Resolvers.fragment_descends (BuiltIn.answer_descends (.path path))
        rwa [Expression.inquiries] at answers
      exact columns.bind fun _ => (assigned_descends path value).thenLevel fun _ => .pure _

theorem withAssignments_descends (values : List (Path × Expression)) (draft : WriteDraft) :
    Descends (withAssignments (.watched watchers) draft values)
      (withAssignments .standard draft values) settings watchers 0
      (values.flatMap Operation.assignmentInquiries) := by
  induction values generalizing draft with
  | nil => exact .pure _
  | cons assignment rest inductionHypothesis =>
      rw [List.flatMap_cons]
      exact (withAssignment_descends draft assignment.1 assignment.2).bind inductionHypothesis

theorem withFilter_descends (draft : WriteDraft) (condition : Filter) :
    Descends (draft.withFilter (.watched watchers) condition)
      (draft.withFilter .standard condition) settings watchers 0
      (Inquiry.into 0 (.filter condition)) := by
  unfold withFilter
  split
  · exact .fail rfl
  · exact (Resolvers.predicate_descends (BuiltIn.answer_descends (.filter condition))).thenLevel
      fun _ => .pure _

theorem withTarget_level (draft : WriteDraft) (target : Target) :
    (draft.withTarget target).StaysLevel settings := by
  unfold withTarget
  split
  · exact .fail rfl
  · split
    · exact .unsupported _
    · exact (introduce_level _).bind fun _ => .pure _

theorem assemble_level (draft : WriteDraft) :
    (Resolution.ofExcept draft.assemble).StaysLevel settings := by
  refine .ofExcept fun error failed => ?_
  unfold assemble at failed
  split at failed
  · cases failed
    rfl
  · split at failed
    · split at failed
      · cases failed
        rfl
      · cases failed
    · cases failed

end WriteDraft

/-- An insert has no bulk form and gets no further than that. -/
theorem Operation.composeWrite_descends
    {operation : Operation}
    (isWrite : operation.kind ≠ .select) :
    Descends (operation.composeWrite (.watched watchers)) (operation.composeWrite .standard)
      settings watchers 0 operation.inquiries := by
  have bulk (starts : WriteDraft.start operation.kind =
      Pure.pure ⟨operation.kind, none, [], none⟩) :
      Descends (operation.composeWrite (.watched watchers)) (operation.composeWrite .standard)
        settings watchers 0
        (operation.values.flatMap assignmentInquiries ++
          Filter.inquiriesIfAny 0 operation.filter) := by
    rw [Filter.inquiriesIfAny_eq_elim]
    unfold composeWrite
    rw [starts]
    refine .afterLevel (.pure _) fun draft => .afterLevel (draft.withTarget_level _) fun draft => ?_
    refine (WriteDraft.withAssignments_descends operation.values draft).bind fun draft => ?_
    refine (Operation.stage_descends (fun draft condition => draft.withFilter_descends condition)
      draft operation.filter).thenLevel fun draft => ?_
    exact draft.assemble_level.bind fun _ => .pure _
  unfold inquiries
  cases kind : operation.kind with
  | select => exact absurd kind isWrite
  | update => exact bulk (by rw [kind]; rfl)
  | delete => exact bulk (by rw [kind]; rfl)
  | insert =>
      refine fun _ _ before atDepth => ?_
      simp only [composeWrite, WriteDraft.start, kind, bind_apply, Resolution.unsupported]
      exact ⟨trivial, atDepth, .ofError rfl⟩

/-! ## Operations -/

/-- The check of an operation is the first thing that its composition does, and the last if it
fails. -/
theorem Operation.compose_of_invalid
    {operation : Operation}
    {before : Context}
    {fault : NodeFault}
    (registry : Resolvers)
    (isRoot : before.isRoot = true)
    (invalid : operation.validate = .error fault) :
    operation.compose registry settings before = (.error (.invalid fault), before) := by
  simp [compose, bind_apply, Resolution.context, Resolution.ofChecked, isRoot, invalid]

/-- The composition of a valid operation descends through its inquiries. -/
theorem Operation.compose_descends
    {operation : Operation}
    (valid : operation.validate = .ok ()) :
    Descends (operation.compose (.watched watchers)) (operation.compose .standard) settings
      watchers 0 operation.inquiries := by
  refine .afterLevel .context fun context => ?_
  split
  · have checks : (Resolution.ofChecked operation.validate).StaysLevel settings := by
      rw [valid]
      exact fun _ => ⟨rfl, fun _ => nofun⟩
    refine .afterLevel checks fun _ => ?_
    split
    · next isSelect =>
        have asked : Descends (operation.composeSelect (.watched watchers))
            (operation.composeSelect .standard) settings watchers 0 _ :=
          operation.composeSelect_descends
        simpa only [inquiries, isSelect] using asked
    · next isWrite => exact composeWrite_descends isWrite
  · exact .fail rfl

namespace Compiler

/-- What the composition of a valid operation tells of its inquiries, when it begins. -/
theorem compose_told
    {compiler : Compiler}
    {operation : Operation}
    (valid : operation.validate = .ok ())
    (passed : ∀ inquiry ∈ operation.inquiries, inquiry.PassedBy compiler.settings watchers) :
    let context := compiler.context operation
    operation.compose (.watched watchers) compiler.settings context =
        operation.compose .standard compiler.settings context ∧
      Inquiry.Told compiler.config.maxDepth operation.inquiries
        (operation.compose .standard compiler.settings context).1 := by
  intro context
  have covered := Operation.validate_covers valid
  obtain ⟨same, -, told⟩ := Operation.compose_descends valid (Nat.zero_le _)
    (fun inquiry member => ⟨covered inquiry member, passed inquiry member⟩) context rfl
  exact ⟨same, told⟩

/-- The compiler finds an operation invalid exactly if its own check fails, with the fault that
the check gives. Then it has not bound a parameter, used an alias or asked the catalog. If the
check is passed, every node passes its check that a resolver can be asked about. -/
theorem compile_invalid_iff
    (compiler : Compiler)
    (operation : Operation)
    (standard : compiler.registry = Resolvers.standard) :
    (∀ fault,
        (compiler.compile operation).1 = .error (.resolve (.invalid fault)) ↔
          operation.validate = .error fault) ∧
      (∀ fault, operation.validate = .error fault →
        operation.compose compiler.registry compiler.settings (compiler.context operation) =
          (.error (.invalid fault), compiler.context operation)) ∧
      (operation.validate = .ok () → ∀ inquiry ∈ operation.inquiries, inquiry.Passes) := by
  refine ⟨fun fault => ⟨fun found => ?_, fun invalid => ?_⟩,
    fun fault => Operation.compose_of_invalid _ rfl, Operation.validate_covers⟩
  · cases valid : operation.validate with
    | ok passed =>
        have unwatched : ∀ inquiry ∈ operation.inquiries,
            inquiry.PassedBy compiler.settings [] := fun _ _ _ => List.forall_mem_nil _
        obtain ⟨-, told⟩ := compose_told valid unwatched
        unfold compile at found
        rw [standard] at found
        split at found
        · simp at found
        · next error after run =>
            rw [run] at told
            exact absurd (by simpa using found) (told.faultless fault)
    | error fault' =>
        have composed : operation.compose compiler.registry compiler.settings
            (compiler.context operation) = (.error (.invalid fault'), _) :=
          Operation.compose_of_invalid _ rfl valid
        simpa [compile, composed] using found
  · have composed : operation.compose compiler.registry compiler.settings
        (compiler.context operation) = (.error (.invalid fault), _) :=
      Operation.compose_of_invalid _ rfl invalid
    simp [compile, composed]

/-- A list without items, in the condition of a sub-query in the condition of an update. With
an item in the list the update is compiled. -/
theorem staleOrders_invalid_iff :
    let compiler : Compiler :=
      ⟨.standard .hibernate, (Configuration.standard .hibernate).dialect, .standard, none⟩
    let among (names : List Value) : Filter :=
      .hasRows ((SubQuery.of (Target.named "customer") (.path Sample.identifier)).withFilter
        (.isIn (.path (Path.of "name" .string)) (.constant (.list names))))
    let closing (names : List Value) : Operation :=
      { (Operation.of .update (Target.named "order")).set Sample.status
          (.constant (.string "stale")) with
        filter := some (among names) }
    (compiler.compile (closing [])).1 =
        .error (.resolve (.invalid ⟨"filter", "IN list is empty"⟩)) ∧
      (∀ inquiry ∈ (closing [.string "Ada"]).inquiries, inquiry.Passes) ∧
      (compiler.compile (closing [.string "Ada"])).1.toOption.map Statement.text =
        some ("UPDATE order orde_0_0 SET orde_0_0.status=:p0001 WHERE EXISTS (SELECT " ++
          "cust_1_0.id FROM customer cust_1_0 WHERE cust_1_0.name IN (:p0002))") := by
  intro compiler among closing
  refine ⟨?_, ?_, by decide +kernel⟩
  · exact ((compile_invalid_iff compiler (closing []) rfl).1 _).mpr rfl
  · exact (compile_invalid_iff compiler (closing [.string "Ada"]) rfl).2.2 rfl

/-- An operation that is compiled nests its sub-queries within the limit. The limit is given as
the error only for an operation that nests them deeper, at the first level beyond. Wherever
resolvers are asked, as many sub-queries are open as are around the node, and the limit admits
so many: resolvers that pass in these cases make no difference, whatever they do in others. -/
theorem compile_nesting
    (compiler : Compiler)
    (operation : Operation)
    (standard : compiler.registry = Resolvers.standard) :
    (∀ statement, (compiler.compile operation).1 = .ok statement →
        operation.nesting ≤ compiler.config.maxDepth) ∧
      (∀ depth limit,
        (compiler.compile operation).1 = .error (.resolve (.nestingLimit depth limit)) →
          compiler.config.maxDepth < operation.nesting ∧
            depth = compiler.config.maxDepth + 1 ∧ limit = compiler.config.maxDepth) ∧
      ∀ watchers,
        (∀ inquiry ∈ operation.inquiries, inquiry.PassedBy compiler.settings watchers) →
          ((compiler.withResolvers (.watched watchers)).compile operation).1 =
            (compiler.compile operation).1 := by
  cases valid : operation.validate with
  | ok passed =>
      have unwatched : ∀ inquiry ∈ operation.inquiries,
          inquiry.PassedBy compiler.settings [] := fun _ _ _ => List.forall_mem_nil _
      have told := (compose_told valid unwatched).2
      refine ⟨fun statement compiled => ?_, fun depth limit failed => ?_,
        fun watchers passed => ?_⟩
      · obtain ⟨composed, after, run, -⟩ := exists_composed compiled
        rw [standard] at run
        rw [run] at told
        exact Operation.nesting_le_iff.mpr (told.within composed rfl)
      · unfold compile at failed
        rw [standard] at failed
        split at failed
        · simp at failed
        · next error after run =>
            rw [run] at told
            obtain ⟨depth_eq, limit_eq, inquiry, member, beyond⟩ :=
              told.exceeded depth limit (by simpa using failed)
            refine ⟨Nat.lt_of_not_le fun within => ?_, depth_eq, limit_eq⟩
            exact absurd (Operation.nesting_le_iff.mp within inquiry member)
              (Nat.not_le_of_lt beyond)
      · have same := (compose_told valid passed).1
        rw [compile_withResolvers (standard ▸ same)]
  | error fault =>
      have composed (registry : Resolvers) : operation.compose registry compiler.settings
          (compiler.context operation) = (.error (.invalid fault), _) :=
        Operation.compose_of_invalid registry rfl valid
      refine ⟨?_, ?_, fun watchers _ => ?_⟩
      · simp [compile, composed]
      · simp [compile, composed]
      · rw [compile_withResolvers ((composed _).trans (composed _).symm)]

/-- Customers with an order, and the same inside another sub-query, where the limit is one
level. A resolver that fails about orders anywhere but inside one sub-query makes no difference
for the first. -/
theorem customers_nesting :
    let compiler : Compiler :=
      ⟨{ Configuration.standard .hibernate with maxDepth := 1 },
        (Configuration.standard .hibernate).dialect, .standard, none⟩
    let amongOrders (condition : Filter) : Filter :=
      .hasRows ((SubQuery.of (Target.named "order") (.path Sample.identifier)).withFilter condition)
    let customers (condition : Filter) : Operation :=
      { Operation.of .select (Target.named "customer") with filter := some condition }
    let shallow := customers (amongOrders (Sample.hasStatus "open"))
    let deep := customers (amongOrders (.not (amongOrders (Sample.hasStatus "open"))))
    let isOrder : Expression → Bool
      | .target (.mk "order" _ _ _) => true
      | _ => false
    let watcher : Resolver :=
      ⟨"watcher", .target, .fragment, fun node => do
        let context ← Resolution.context
        if isOrder node ∧ context.depth ≠ 1 then fail (.build "misplaced order") else return none⟩
    let text := "SELECT cust_0_0 FROM customer cust_0_0 WHERE EXISTS (SELECT orde_1_0.id " ++
      "FROM order orde_1_0 WHERE orde_1_0.status=:p0001)"
    shallow.nesting ≤ 1 ∧
      (compiler.compile shallow).1.toOption.map Statement.text = some text ∧
      ((compiler.withResolvers (.watched [watcher])).compile shallow).1.toOption.map
        Statement.text = some text ∧
      (compiler.compile deep).1 = .error (.resolve (.nestingLimit 2 1)) ∧
      1 < deep.nesting := by
  intro compiler amongOrders customers shallow deep isOrder watcher text
  have written : (compiler.compile shallow).1.toOption.map Statement.text = some text := by
    decide +kernel
  have refused : (compiler.compile deep).1 = .error (.resolve (.nestingLimit 2 1)) :=
    Except.eq_error_of_match (by decide +kernel)
  obtain ⟨statement, compiled, -⟩ := Except.exists_ok_of_map_toOption written
  obtain ⟨within, -, unwatched⟩ := compile_nesting compiler shallow rfl
  have passed : ∀ inquiry ∈ shallow.inquiries,
      inquiry.PassedBy compiler.settings [watcher] := by
    have placed : ∀ inquiry ∈ shallow.inquiries,
        isOrder inquiry.node = true → inquiry.depth = 1 := by
      decide +kernel
    intro inquiry member _ listed isListed kind context atDepth
    obtain rfl := List.mem_singleton.mp isListed
    have fits : ¬ (isOrder inquiry.node = true ∧ context.depth ≠ 1) :=
      fun misplaced => misplaced.2 (atDepth.trans (placed inquiry member misplaced.1))
    simp only [watcher, bind_apply, Resolution.context, if_neg fits]
    rfl
  refine ⟨within statement compiled, written, ?_, refused,
    ((compile_nesting compiler deep rfl).2.1 2 1 refused).1⟩
  rw [unwatched [watcher] passed]
  exact written

end Compiler
end ObjectQuery
