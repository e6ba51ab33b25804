import Mathlib
import ObjectQuery.Compiler.Basic
import ObjectQuery.Proofs.Parameters.Nodes
import ObjectQuery.Proofs.Throughout
import ObjectQuery.Proofs.Writes.Calls
import ObjectQuery.Sample

/-!
# Parameters of statements are exact

A compiled statement refers to each of its parameters exactly once and to nothing else, and
its parentheses are balanced. The parameters are numbered in the order of allocation; where
no projection binds any, the statement refers to them in this order.
-/

namespace ObjectQuery

open Text Resolution NodeCheck BuiltIn

variable {settings : Settings} {ordered : Prop} {before : Context}

/-! ## Selects -/

/-- The parameters that a select binds. -/
def Operation.selectSlots (operation : Operation) : Nat :=
  operation.target.slots + Filter.slotsIfAny operation.filter +
    (operation.aggregation.map Aggregation.slots).getD 0 +
    (operation.sort.map SortKey.totalSlots).getD 0 +
    (operation.projection.getD Projection.entity).slots

/-! Each clause that an operation may leave out is a stage of the draft. -/

section Stages

variable {start : Context} {slots : Nat} {draft : SelectDraft}

theorem filterStage_ledger
    (readable : settings.dialect.IsReadable)
    (missing : draft.condition = none ∧ draft.grouping = none ∧ draft.ordering = none)
    (ledger : Ledger settings ordered slots start before
      (ReadsDraft settings.dialect.parameterMarker draft))
    {found : Option Filter}
    (named : wellNamed.filterIfAny found)
    (still : ordered → unbound.filterIfAny found) :
    (Operation.stage
      (fun draft condition =>
        draft.withFilter (Resolvers.standard.conditionOf (.filter condition)))
      draft found).Ensures settings before fun draft' after =>
        (draft'.grouping = none ∧ draft'.ordering = none) ∧
          Ledger settings ordered (slots + Filter.slotsIfAny found) start after
            (ReadsDraft settings.dialect.parameterMarker draft') := by
  cases found with
  | none => exact .pure ⟨missing.2, ledger⟩
  | some condition =>
      simp only [NodeCheck.filterIfAny] at named still
      exact withFilter_ledger readable missing ledger (predicate_writes fun _ =>
        filter_ledger readable condition named still ledger.ready)

theorem aggregationStage_ledger
    (readable : settings.dialect.IsReadable)
    (missing : draft.grouping = none ∧ draft.ordering = none)
    (ledger : Ledger settings ordered slots start before
      (ReadsDraft settings.dialect.parameterMarker draft))
    {found : Option Aggregation}
    (named : ∀ grouping, found = some grouping → wellNamed.aggregation grouping)
    (still : ordered → ∀ grouping, found = some grouping → unbound.aggregation grouping) :
    (Operation.stage
      (fun draft grouping =>
        draft.withAggregation (Resolvers.standard.fragmentOf (.aggregation grouping)))
      draft found).Ensures settings before fun draft' after =>
        draft'.ordering = none ∧
          Ledger settings ordered (slots + (found.map Aggregation.slots).getD 0) start after
            (ReadsDraft settings.dialect.parameterMarker draft') := by
  cases found with
  | none => exact .pure ⟨missing.2, ledger⟩
  | some grouping =>
      exact withAggregation_ledger readable missing ledger (fragment_writes fun _ =>
        (aggregation_writes readable grouping (named grouping rfl)
          (fun asked => still asked grouping rfl) ledger.ready).answers)

theorem sortStage_ledger
    (readable : settings.dialect.IsReadable)
    (missing : draft.ordering = none)
    (ledger : Ledger settings ordered slots start before
      (ReadsDraft settings.dialect.parameterMarker draft))
    {found : Option (List SortKey)}
    (named : ∀ keys, found = some keys → wellNamed.sortKeys keys)
    (still : ordered → ∀ keys, found = some keys → unbound.sortKeys keys) :
    (Operation.stage
      (fun draft keys => draft.withSort (Resolvers.standard.fragmentOf (.sort keys)))
      draft found).Ensures settings before fun draft' after =>
        Ledger settings ordered (slots + (found.map SortKey.totalSlots).getD 0) start after
          (ReadsDraft settings.dialect.parameterMarker draft') := by
  cases found with
  | none => exact .pure ledger
  | some keys =>
      exact withSort_ledger readable missing ledger (fragment_writes fun valid =>
        answer_ledger readable (.sort keys)
          (by simpa [NodeCheck.expression] using named keys rfl)
          (fun asked => by simpa [NodeCheck.expression] using still asked keys rfl)
          valid ledger.ready)

end Stages

theorem composeSelect_ledger
    (readable : settings.dialect.IsReadable)
    {operation : Operation}
    (named : wellNamed.Throughout operation)
    (still : ordered → unbound.Throughout operation)
    (ready : before.Ready settings.dialect) :
    (operation.composeSelect .standard).Ensures settings before fun composed after =>
      Ledger settings ordered operation.selectSlots before after
        (Reads settings.dialect.parameterMarker composed.text) := by
  have namedProjection : wellNamed.projection (operation.projection.getD Projection.entity) := by
    cases given : operation.projection with
    | none => simp [Projection.entity, NodeCheck.projection, wellNamed]
    | some selected => exact named.projection selected given
  have stillProjection (asked : ordered) :
      unbound.projection (operation.projection.getD Projection.entity) := by
    cases given : operation.projection with
    | none => simp [Projection.entity, NodeCheck.projection, unbound, Projection.slots]
    | some selected => exact (still asked).projection selected given
  refine (withTarget_ledger (fragment_writes fun valid => (target_writes readable operation.target
    named.target (fun asked => (still asked).target)
    (by simpa [Expression.validate, Validation.expression] using valid) ready).answers)
    operation.distinct).bind fun draft between written => ?_
  obtain ⟨missing, ledger⟩ := written
  refine (filterStage_ledger readable missing ledger named.filter
    fun asked => (still asked).filter).bind fun draft between written => ?_
  obtain ⟨missing, ledger⟩ := written
  refine (aggregationStage_ledger readable missing ledger named.aggregation
    fun asked => (still asked).aggregation).bind fun draft between written => ?_
  obtain ⟨missing, ledger⟩ := written
  refine (sortStage_ledger readable missing ledger named.sort
    fun asked => (still asked).sort).bind fun draft between ledger => ?_
  refine (withProjection_ledger readable ledger (plan_writes fun valid =>
    plan_answers (projection_ledger readable _ namedProjection stillProjection
      (by simpa [Expression.validate, Validation.expression] using valid) ledger.ready))
    fun asked => ofProjection_of_projection (stillProjection asked)).bind
    fun draft between written => ?_
  obtain ⟨source, plan, sourced, planned, ledger⟩ := written
  refine (SelectDraft.assemble_ensures sourced planned).bind ?_
  rintro _ _ ⟨rfl, rfl⟩
  exact .pure ledger

/-! ## Writes -/

/-- The parameters that a list of assignments binds. -/
def Operation.assignedSlots (values : List (Path × Expression)) : Nat :=
  (values.map fun assignment => assignment.2.slots).sum

/-- What is read off a draft: its assignments, and then its condition. -/
def ReadsWrite (marker : Char) (draft : WriteDraft) (names : List String) : Prop :=
  ∃ assigned conditioned, names = assigned ++ conditioned ∧
    ReadsEach marker draft.assignments assigned ∧
      ReadsApart marker (SelectDraft.clause "WHERE " draft.condition) conditioned

namespace WriteDraft

theorem withTarget_ensures
    (ready : before.Ready settings.dialect)
    {kind : OperationKind}
    {target : Target}
    (named : wellNamed.target target)
    (valid : Validation.target target = .ok ()) :
    (withTarget ⟨kind, none, [], none⟩ target).Ensures settings before fun draft after =>
      ∃ declaration, draft = ⟨kind, some declaration, [], none⟩ ∧ IsWord declaration ∧
        before.Steady after settings.dialect := by
  obtain ⟨name, entity, given, joined⟩ := target
  simp only [NodeCheck.target] at named
  simp only [withTarget, Option.isSome_none, Bool.false_eq_true, if_false]
  split
  · exact .unsupported _
  · refine (introduce_ensures ready (.mk name entity given joined) named.1
      (target_of_valid valid).1).bind fun binding after introduced => .pure ?_
    exact ⟨_, rfl, introduced.2.declaration, introduced.1⟩

theorem assigned_writes
    (readable : settings.dialect.IsReadable)
    (ready : before.Ready settings.dialect)
    {path : Path}
    {value : Expression}
    (named : wellNamed.expression value)
    (still : ordered → unbound.expression value)
    (noReference : ∀ text, value = .constant (.string text) →
      settings.dialect.looksLikeReference text = false) :
    Writes settings ordered value.slots before (assigned .standard path value) := by
  have resolved : Writes settings ordered value.slots before
      (withHint path.valueType (Resolvers.standard.fragmentOf value)) :=
    withHint_writes (fragment_writes fun valid =>
      answer_ledger readable value named still valid (ready.withHint _))
  refine .bindDialect ?_
  split
  · next text =>
      simp only [noReference text rfl]
      exact resolved
  · exact resolved

theorem assignment_writes
    (readable : settings.dialect.IsReadable)
    (ready : before.Ready settings.dialect)
    {path : Path}
    {value : Expression}
    (dotted : path.IsDotted)
    (named : wellNamed.expression value)
    (still : ordered → unbound.expression value)
    (noReference : ∀ text, value = .constant (.string text) →
      settings.dialect.looksLikeReference text = false) :
    Writes settings ordered value.slots before (assignment .standard (path, value)) := by
  have columns : Writes settings ordered 0 before (Resolvers.standard.fragmentOf (.path path)) :=
    fragment_writes fun _ => by
      simp only [answer]
      exact (path_writes readable ordered ready dotted).answers
  refine Ensures.bind columns fun column between ledgerColumn => ?_
  refine Ensures.bind (assigned_writes readable ledgerColumn.ready named still noReference)
    fun text after ledgerText => .pure ?_
  have pair := ledgerColumn.andThen ledgerText fun names names' column text =>
    column.joined "=" (by decide) (by decide) (plain_of_all readable.marker (by decide)) text
  rwa [Nat.zero_add] at pair

theorem withAssignment_ledger
    (readable : settings.dialect.IsReadable)
    {start : Context}
    {slots : Nat}
    {path : Path}
    {value : Expression}
    (dotted : path.IsDotted)
    (named : wellNamed.expression value)
    (still : ordered → unbound.expression value)
    (noReference : ∀ text, value = .constant (.string text) →
      settings.dialect.looksLikeReference text = false)
    {draft : WriteDraft}
    (ledger : Ledger settings ordered slots start before
      (ReadsEach settings.dialect.parameterMarker draft.assignments)) :
    (draft.withAssignment .standard path value).Ensures settings before fun draft' after =>
      ∃ assignment,
        draft' = { draft with assignments := draft.assignments ++ [assignment] } ∧
          Ledger settings ordered (slots + value.slots) start after
            (ReadsEach settings.dialect.parameterMarker draft'.assignments) := by
  intro draft' after run
  obtain ⟨-, -, text, written, rfl⟩ := withAssignment_run run
  have pair := assignment_writes readable ledger.ready dotted named still noReference _ _ written
  exact ⟨text, rfl, ledger.andThen pair fun names names' each reads => by
    simpa using each.append (.cons reads .nil)⟩

/-- Assignments are read in their order, and leave the rest of the draft as it is. -/
theorem withAssignments_ledger
    (readable : settings.dialect.IsReadable)
    {start : Context}
    {slots : Nat}
    {values : List (Path × Expression)}
    (dotted : ∀ assignment ∈ values, assignment.1.IsDotted)
    (named : ∀ assignment ∈ values, wellNamed.expression assignment.2)
    (still : ordered → ∀ assignment ∈ values, unbound.expression assignment.2)
    (noReference : ∀ assignment ∈ values, ∀ text, assignment.2 = .constant (.string text) →
      settings.dialect.looksLikeReference text = false)
    {draft : WriteDraft}
    (ledger : Ledger settings ordered slots start before
      (ReadsEach settings.dialect.parameterMarker draft.assignments)) :
    (withAssignments .standard draft values).Ensures settings before fun draft' after =>
      ∃ assignments,
        draft' = { draft with assignments } ∧ (values = [] → assignments = draft.assignments) ∧
          Ledger settings ordered (slots + Operation.assignedSlots values) start after
            (ReadsEach settings.dialect.parameterMarker assignments) := by
  induction values generalizing before slots draft with
  | nil => exact .pure ⟨_, rfl, fun _ => rfl, ledger⟩
  | cons assignment rest inductionHypothesis =>
      refine (withAssignment_ledger readable (dotted assignment List.mem_cons_self)
        (named assignment List.mem_cons_self)
        (fun asked => still asked assignment List.mem_cons_self)
        (noReference assignment List.mem_cons_self) ledger).bind fun draft' between written => ?_
      obtain ⟨text, rfl, ledger'⟩ := written
      refine (inductionHypothesis
        (fun found member => dotted found (List.mem_cons_of_mem _ member))
        (fun found member => named found (List.mem_cons_of_mem _ member))
        (fun asked found member => still asked found (List.mem_cons_of_mem _ member))
        (fun found member => noReference found (List.mem_cons_of_mem _ member))
        ledger').weaken fun draft'' after written => ?_
      obtain ⟨assignments, rfl, -, ledger''⟩ := written
      refine ⟨assignments, rfl, by simp, ?_⟩
      simpa [Operation.assignedSlots, Nat.add_assoc] using ledger''

/-- The condition of a write, if it has one, is read after its assignments. -/
theorem filterStage_ledger
    (readable : settings.dialect.IsReadable)
    {start : Context}
    {slots : Nat}
    {found : Option Filter}
    (named : wellNamed.filterIfAny found)
    (still : ordered → unbound.filterIfAny found)
    {draft : WriteDraft}
    (missing : draft.condition = none)
    (ledger : Ledger settings ordered slots start before
      (ReadsEach settings.dialect.parameterMarker draft.assignments)) :
    (Operation.stage (fun draft condition => draft.withFilter .standard condition) draft
      found).Ensures settings before fun draft' after =>
        ∃ condition, draft' = { draft with condition } ∧
          Ledger settings ordered (slots + Filter.slotsIfAny found) start after
            (ReadsWrite settings.dialect.parameterMarker draft') := by
  cases found with
  | none =>
      refine .pure ⟨draft.condition, rfl, ledger.map fun names each => ?_⟩
      refine ⟨names, [], by simp, each, ?_⟩
      rw [missing]
      exact ⟨Plain.empty.reads, by decide⟩
  | some condition =>
      simp only [NodeCheck.filterIfAny] at named still
      simp only [Operation.stage, withFilter]
      split
      · exact .fail _
      · refine Ensures.bind (predicate_writes fun _ =>
          filter_ledger readable condition named still ledger.ready)
          fun text after ledgerText => .pure ⟨_, rfl, ?_⟩
        exact ledger.andThen ledgerText fun names names' each reads =>
          ⟨names, names', rfl, each, readsApart_clause readable.marker _ (by decide) reads⟩

/-- A finished draft reads its assignments, if it writes them, and its condition. -/
theorem reads_of_assemble
    {marker : Char}
    (distinct : Distinct marker)
    {kind : OperationKind}
    {declaration text : String}
    {assignments : List String}
    {condition : Option String}
    {names : List String}
    (word : IsWord declaration)
    (writesThem : kind = .update ∨ assignments = [])
    (reads : ReadsWrite marker ⟨kind, some declaration, assignments, condition⟩ names)
    (assembled : assemble ⟨kind, some declaration, assignments, condition⟩ = .ok text) :
    Reads marker text names := by
  obtain ⟨assigned, conditioned, rfl, each, clause, apart⟩ := reads
  have words : ∀ {text : String}, IsWord text → Plain marker text := fun word =>
    word.plain distinct
  simp only [assemble] at assembled
  split at assembled
  · split at assembled
    · simp at assembled
    · cases assembled
      have opening : IsWord "UPDATE " := by decide
      have setting : IsWord " SET " := by decide
      have separator : IsWord ", " := by decide
      have list := each.intercalate (words separator) (by decide) (by decide)
      exact ((words ((opening.append word).append setting)).before list).append apart clause
  · next notUpdate =>
      obtain rfl : assignments = [] := writesThem.resolve_left notUpdate
      cases each
      cases assembled
      have opening : IsWord "DELETE FROM " := by decide
      simpa using (words (opening.append word)).before clause

end WriteDraft

theorem composeWrite_ledger
    (readable : settings.dialect.IsReadable)
    {operation : Operation}
    (named : wellNamed.Throughout operation)
    (still : ordered → unbound.Throughout operation)
    (noReference : operation.AssignsNoReference settings.dialect.parameterMarker)
    (valid : operation.validate = .ok ())
    (ready : before.Ready settings.dialect) :
    (operation.composeWrite .standard).Ensures settings before fun composed after =>
      Ledger settings ordered
        (Operation.assignedSlots operation.values + Filter.slotsIfAny operation.filter) before after
        (Reads settings.dialect.parameterMarker composed.text) := by
  simp only [Operation.validate, Validation.andThen_ok_iff, Validation.require_ok_iff,
    Bool.or_eq_true, beq_iff_eq, List.isEmpty_iff] at valid
  obtain ⟨validTarget, -, -, -, -, fits, -⟩ := valid
  refine Ensures.bind (fun _ _ run => WriteDraft.start_run run) ?_
  rintro _ _ ⟨-, rfl, rfl⟩
  refine (WriteDraft.withTarget_ensures ready named.target validTarget).bind
    fun draft between written => ?_
  obtain ⟨declaration, rfl, word, steady⟩ := written
  have nothing : Ledger settings ordered 0 _ between
      (ReadsEach settings.dialect.parameterMarker []) := .none steady .nil
  refine (WriteDraft.withAssignments_ledger readable named.paths named.values
    (fun asked => (still asked).values) (fun assignment member text same =>
      Dialect.looksLikeReference_of_head? (noReference assignment member text same))
    nothing).bind fun draft between written => ?_
  obtain ⟨assignments, rfl, unchanged, ledger⟩ := written
  refine (WriteDraft.filterStage_ledger readable named.filter (fun asked => (still asked).filter)
    rfl ledger).bind fun draft between written => ?_
  obtain ⟨condition, rfl, ledger⟩ := written
  have texts : (ofExcept (WriteDraft.assemble
      ⟨operation.kind, some declaration, assignments, condition⟩)).Ensures settings between
      fun text after => between = after ∧ ∀ names,
        ReadsWrite settings.dialect.parameterMarker
          ⟨operation.kind, some declaration, assignments, condition⟩ names →
        Reads settings.dialect.parameterMarker text names :=
    .ofExcept fun text assembled => ⟨rfl, fun names reads =>
      WriteDraft.reads_of_assemble readable.marker word (fits.imp id unchanged) reads assembled⟩
  refine texts.bind fun text after written => .pure ?_
  obtain ⟨rfl, reads⟩ := written
  simpa using ledger.map reads

/-! ## Statements -/

/-- Every operation keeps its ledger, whatever it is. -/
theorem compose_ledger
    (readable : settings.dialect.IsReadable)
    {operation : Operation}
    (named : wellNamed.Throughout operation)
    (still : ordered → unbound.Throughout operation)
    (noReference : operation.AssignsNoReference settings.dialect.parameterMarker)
    (ready : before.Ready settings.dialect) :
    (operation.compose .standard).Ensures settings before fun composed after =>
      ∃ slots, Ledger settings ordered slots before after
        (Reads settings.dialect.parameterMarker composed.text) := by
  refine .bindContext ?_
  split
  · refine .bindChecked fun valid => ?_
    split
    · exact (composeSelect_ledger readable named still ready).weaken fun _ _ ledger => ⟨_, ledger⟩
    · exact (composeWrite_ledger readable named still noReference valid ready).weaken
        fun _ _ ledger => ⟨_, ledger⟩
  · exact .fail _

/-- What is read off the text of a composed operation is what was allocated. -/
theorem compose_parameters_exact
    (readable : settings.dialect.IsReadable)
    {aliasMode : AliasPolicy}
    {catalog : Option Catalog}
    {operation : Operation}
    {composed : StatementText}
    {after : Context}
    (dotted : ∀ found, catalog = some found → found.IsDotted)
    (named : wellNamed.Throughout operation)
    (noReference : operation.AssignsNoReference settings.dialect.parameterMarker)
    (run : operation.compose .standard settings (Context.root aliasMode catalog) =
      (.ok composed, after)) :
    after.parameters.names = settings.dialect.numberedNames 0 after.parameters.size ∧
      after.parameters.names.Nodup ∧
      (referencesIn composed.text settings.dialect.parameterMarker).Perm
        after.parameters.names ∧
      (unbound.Throughout operation →
        referencesIn composed.text settings.dialect.parameterMarker = after.parameters.names) ∧
      isBalanced composed.text = true := by
  -- order is asked for exactly where no projection binds a parameter
  obtain ⟨slots, ready, size, names, reads, perm, inOrder⟩ :=
    compose_ledger readable named (id : unbound.Throughout operation → _) noReference
      (Context.Ready.root aliasMode dotted) composed after run
  have size : after.parameters.size = slots := by
    simpa [Context.root, ParameterTable.empty, ParameterTable.size] using size
  have allocated : after.parameters.names = settings.dialect.numberedNames 0 slots := by
    rw [ready.numbered, size]
  have found : referencesIn composed.text settings.dialect.parameterMarker = names := by
    simpa [referencesIn, referencesFrom] using reads.references [] separated_nil
  rw [found, allocated]
  refine ⟨by rw [size], Dialect.nodup_numberedNames _ _ _, perm, inOrder, ?_⟩
  simpa [isBalanced, balancedFrom] using reads.balance 0 []

namespace Configuration

variable {marker : Char}

theorem isPunctuation_of_isMarker (accepted : isMarker marker = true) :
    isPunctuation marker = true :=
  (Bool.and_eq_true_iff.mp accepted).1

theorem ne_of_isMarker
    (accepted : isMarker marker = true)
    {sign : Char}
    (forbidden : sign ∈ forbiddenMarkers) :
    marker ≠ sign := by
  rintro rfl
  simp [isMarker, forbidden] at accepted

/-- What is accepted as marker is no character of a word, and none that stands between words. -/
theorem unworded_of_isMarker (accepted : isMarker marker = true) :
    isNameCharacter marker = false ∧ marker ≠ ' ' ∧ marker ≠ ',' ∧ marker ≠ '.' := by
  have punctuation := isPunctuation_of_isMarker accepted
  refine ⟨isNameCharacter_of_isPunctuation punctuation (ne_of_isMarker accepted (by decide)), ?_,
    ne_of_isMarker accepted (by decide), ne_of_isMarker accepted (by decide)⟩
  rintro rfl
  revert punctuation
  decide

/-- The punctuation that a configuration accepts as marker, less the signs that are written. -/
theorem distinct_of_isMarker
    (accepted : isMarker marker = true)
    (unwritten : marker ∉ ['=', '<', '>', '-', '{']) :
    Distinct marker := by
  refine ⟨?_, ne_of_isMarker accepted (by decide), ne_of_isMarker accepted (by decide),
    ne_of_isMarker accepted (by decide)⟩
  obtain ⟨noName, noBlank, comma, point⟩ := unworded_of_isMarker accepted
  simp only [List.mem_cons, List.not_mem_nil, or_false, not_or] at unwritten
  simp [isPlainCharacter, noName, noBlank, comma, point, unwritten]

end Configuration

theorem Configuration.isReadable_of_validate
    {config : Configuration}
    (valid : config.validate = .ok ())
    (unwritten : config.parameterMarker ∉ ['=', '<', '>', '-', '{']) :
    config.dialect.IsReadable :=
  ⟨distinct_of_isMarker (isMarker_of_validate valid) unwritten, isIdentifier_of_validate valid, rfl⟩

/-- The parameters of a compiled statement are numbered without gap, and its text refers to
each of them once and to nothing else. -/
theorem Compiler.compile_parameters_exact
    {config : Configuration}
    {compiler : Compiler}
    {catalog : Option Catalog}
    {operation : Operation}
    {statement : Statement}
    (created : Compiler.create config = .ok compiler)
    (unwritten : config.parameterMarker ∉ ['=', '<', '>', '-', '{'])
    (dotted : ∀ found, catalog = some found → found.IsDotted)
    (named : wellNamed.Throughout operation)
    (noReference : operation.AssignsNoReference config.parameterMarker)
    (compiled : (Compiler.compile { compiler with catalog } operation).1 = .ok statement) :
    statement.parameters.names =
        config.dialect.numberedNames 0 statement.parameters.size ∧
      statement.parameters.names.Nodup ∧
      (referencesIn statement.text config.parameterMarker).Perm statement.parameters.names ∧
      (unbound.Throughout operation →
        referencesIn statement.text config.parameterMarker = statement.parameters.names) ∧
      isBalanced statement.text = true := by
  obtain ⟨valid, rfl⟩ := create_eq_ok_iff.mp created
  simp only [Compiler.compile] at compiled
  split at compiled
  · next composed after run =>
      cases compiled
      have readable : (Compiler.settings ⟨config, config.dialect, .standard, catalog⟩).dialect.IsReadable :=
        Configuration.isReadable_of_validate valid unwritten
      exact compose_parameters_exact readable dotted named noReference run
  · simp at compiled

/-- The customers with a large order: their only parameter stands in the sub-query. -/
theorem Compiler.customers_parameters_exact :
    let compiler : Compiler :=
      ⟨.standard .hibernate, (Configuration.standard .hibernate).dialect, .standard, none⟩
    ∃ statement,
      (compiler.compile (Sample.customersWithLargeOrders 100)).1 = .ok statement ∧
        statement.parameters.names = ["p0001"] ∧
        referencesIn statement.text ':' = statement.parameters.names ∧
        isBalanced statement.text = true := by
  intro compiler
  have shown : (compiler.compile (Sample.customersWithLargeOrders 100)).1.toOption.map
      (fun statement => statement.parameters.names) = some ["p0001"] := by
    decide +kernel
  obtain ⟨statement, compiled, names⟩ := Except.exists_ok_of_map_toOption shown
  have dotted : isDottedIdentifier "order" = true ∧ isDottedIdentifier "customerId" = true ∧
      isDottedIdentifier "id" = true ∧ isDottedIdentifier "total" = true := by decide
  have named : wellNamed.Throughout (Sample.customersWithLargeOrders 100) :=
    { target := ⟨⟨by decide, nofun⟩, trivial⟩
      filter := ⟨⟨⟨dotted.1, nofun⟩, trivial⟩,
        ⟨⟨⟨dotted.2.1, dotted.2.2.1⟩, ⟨dotted.2.2.2, trivial⟩, trivial⟩, ⟨nofun, dotted.2.2.1⟩⟩⟩
      aggregation := nofun
      sort := nofun
      projection := nofun
      paths := nofun
      values := nofun }
  have still : unbound.Throughout (Sample.customersWithLargeOrders 100) :=
    { target := ⟨trivial, trivial⟩
      filter := ⟨⟨trivial, trivial⟩, ⟨⟨trivial, trivial⟩, ⟨trivial, trivial⟩, trivial⟩,
        ⟨rfl, trivial⟩⟩
      aggregation := nofun
      sort := nofun
      projection := nofun
      paths := nofun
      values := nofun }
  have noReference : (Sample.customersWithLargeOrders 100).AssignsNoReference ':' := by
    simp [Operation.AssignsNoReference, Sample.customersWithLargeOrders, Operation.of]
  obtain ⟨-, -, -, inOrder, balanced⟩ := @compile_parameters_exact (.standard .hibernate)
    compiler none _ _ rfl (by decide) (by simp) named noReference compiled
  exact ⟨statement, compiled, names, inOrder still, balanced⟩

end ObjectQuery
