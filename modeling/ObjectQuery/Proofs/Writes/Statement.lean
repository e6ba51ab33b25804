import Mathlib
import ObjectQuery.Proofs.Parameters.Statement
import ObjectQuery.Sample

/-!
# What a built write keeps

A statement that calls on a draft build is made of the assignments, if it is an update, and of
the last condition. A delete drops what was assigned, and a condition drops the one before it,
while their parameters stay bound: the references of the statement are those of the calls that
it keeps. So nothing is lost exactly where no delete assigns and no condition follows another
one.
-/

namespace ObjectQuery

open Text Resolution NodeCheck BuiltIn

variable {settings : Settings} {ordered : Prop} {before after : Context}

/-! ## References of a list -/

/-- The references of texts that are written one after the other. -/
theorem Resolution.each_ledger
    {item : Type}
    {step : item → Resolution String}
    {slots : item → Nat}
    {items : List item}
    (writes : ∀ found ∈ items, ∀ before : Context, before.Ready settings.dialect →
      Writes settings ordered (slots found) before (step found))
    (ready : before.Ready settings.dialect) :
    (each step items).Ensures settings before fun texts after =>
      Ledger settings ordered (items.map slots).sum before after
        (ReadsEach settings.dialect.parameterMarker texts) := by
  induction items generalizing before with
  | nil => exact .pure (.none ready.steady .nil)
  | cons first rest inductionHypothesis =>
      refine Ensures.bind (writes first List.mem_cons_self before ready)
        fun text between ledger => ?_
      refine (inductionHypothesis (fun found member => writes found (List.mem_cons_of_mem _ member))
        ledger.ready).bind fun texts after ledgers => .pure ?_
      exact ledger.andThen ledgers fun names names' reads each => .cons reads each

/-! ## Calls that can be read -/

/-- A call with dotted names that assigns no text which looks like a reference. -/
def WriteCall.IsReadable (dialect : Dialect) : WriteCall → Prop
  | .target found =>
      Target.HasDottedNames found.name found.entity ∧
        ∀ aliasName, found.aliasName = some aliasName → IsWord aliasName
  | .set path value =>
      path.IsDotted ∧ wellNamed.expression value ∧
        ∀ text, value = .constant (.string text) → dialect.looksLikeReference text = false
  | .filter condition => wellNamed.filter condition

namespace WriteCourse

section Names

variable
  {registry : Resolvers}
  {calls : List WriteCall}
  (course : WriteCourse registry calls settings before after)
  (kind : OperationKind)

/-- The number of parameters for conditions that are overwritten. -/
def lostSlots : Nat :=
  (course.overwritten.map Filter.slots).sum

/-- The names of all parameters that the accepted calls bind. -/
def boundNames : List String :=
  settings.dialect.numberedNames before.parameters.size
    (Operation.assignedSlots course.values + course.lostSlots +
      Filter.slotsIfAny course.condition)

/-- The names of the parameters that are bound for what the statement of a kind holds. -/
def heldNames : List String :=
  (if kind = .update then
      settings.dialect.numberedNames before.parameters.size
        (Operation.assignedSlots course.values)
    else
      []) ++
    settings.dialect.numberedNames
      (before.parameters.size + Operation.assignedSlots course.values + course.lostSlots)
      (Filter.slotsIfAny course.condition)

theorem heldNames_perm_boundNames_iff :
    (course.heldNames kind).Perm course.boundNames ↔
      (kind = .update ∨ Operation.assignedSlots course.values = 0) ∧ course.lostSlots = 0 := by
  unfold heldNames boundNames
  constructor
  · intro perm
    have lengths := perm.length_eq
    simp only [Dialect.numberedNames, List.length_append, List.length_map, List.length_range',
      apply_ite List.length, List.length_nil] at lengths
    split at lengths
    · next isUpdate => exact ⟨.inl isUpdate, by omega⟩
    · exact ⟨.inr (by omega), by omega⟩
  · rintro ⟨isUpdate | nothing, noneLost⟩
    · rw [if_pos isUpdate, noneLost, Nat.add_zero, Nat.add_zero, Dialect.numberedNames_add]
    · rw [nothing, noneLost]
      simp [Dialect.numberedNames]

end Names
end WriteCourse

/-- A condition that is there is read after its word. -/
theorem readsApart_condition
    {marker : Char}
    (distinct : Distinct marker)
    {condition : Option String}
    {names : List String}
    (each : ReadsEach marker condition.toList names) :
    ReadsApart marker (SelectDraft.clause "WHERE " condition) names := by
  cases condition with
  | none =>
      cases each
      exact ⟨Plain.empty.reads, by decide⟩
  | some text =>
      cases each with
      | cons reads nothing =>
          cases nothing
          rw [List.append_nil]
          exact readsApart_clause distinct _ (by decide) reads

namespace WriteCourse

variable
  {calls : List WriteCall}
  (course : WriteCourse .standard calls settings before after)
  {kind : OperationKind}

/-- Assignments, overwritten conditions and the last condition keep their ledgers. -/
theorem ledgers
    (readable : settings.dialect.IsReadable)
    (ready : before.Ready settings.dialect)
    (calm : ∀ call ∈ calls, call.IsReadable settings.dialect) :
    course.binding.HasWords ∧
      Ledger settings False (Operation.assignedSlots course.values) before course.atValues
        (ReadsEach settings.dialect.parameterMarker course.assigned) ∧
      Ledger settings False course.lostSlots course.atValues course.atCondition
        (ReadsEach settings.dialect.parameterMarker course.lost) ∧
      Ledger settings False (Filter.slotsIfAny course.condition) course.atCondition after
        (ReadsEach settings.dialect.parameterMarker course.kept.toList) := by
  have accepted := course.accepted
  have calmTarget : (WriteCall.target course.target).IsReadable settings.dialect :=
    calm _ (by simp [accepted])
  have calmValue : ∀ found ∈ course.values, (WriteCall.assign found).IsReadable settings.dialect :=
    fun found member => calm _ (by
      rw [accepted]
      exact List.mem_cons_of_mem _ (List.mem_append_left _ (List.mem_map_of_mem member)))
  have calmCondition : ∀ found ∈ course.overwritten ++ course.condition.toList,
      (WriteCall.filter found).IsReadable settings.dialect :=
    fun found member => calm _ (by
      rw [accepted]
      exact List.mem_cons_of_mem _ (List.mem_append_right _ (List.mem_map_of_mem member)))
  have assigns : ∀ found ∈ course.values, ∀ before : Context, before.Ready settings.dialect →
      Writes settings False found.2.slots before (WriteDraft.assignment .standard found) :=
    fun found member before ready =>
      have ⟨dotted, named, noReference⟩ := calmValue found member
      WriteDraft.assignment_writes readable ready dotted named False.elim noReference
  have restricts : ∀ found ∈ course.overwritten ++ course.condition.toList,
      ∀ before : Context, before.Ready settings.dialect →
        Writes settings False found.slots before (WriteDraft.restriction .standard found) :=
    fun found member before ready => predicate_writes fun _ =>
      filter_ledger readable found (calmCondition found member) False.elim ready
  obtain ⟨steady, words⟩ := introduce_ensures ready course.target calmTarget.1 calmTarget.2 _ _
    course.introduces
  have assigned := (each_ledger assigns steady.ready _ _ course.assigns).afterSteady steady
  have lost := each_ledger (fun found member => restricts found (List.mem_append_left _ member))
    assigned.ready _ _ course.overwrites
  have kept := each_ledger (fun found member => restricts found (List.mem_append_right _ member))
    lost.ready _ _ course.keeps
  have slots : (course.condition.toList.map Filter.slots).sum =
      Filter.slotsIfAny course.condition := by
    cases course.condition <;> simp [Filter.slotsIfAny]
  exact ⟨words, assigned, lost, slots ▸ kept⟩

/-- A built write refers to the parameters of what it holds, and to nothing else. -/
theorem references
    (readable : settings.dialect.IsReadable)
    (ready : before.Ready settings.dialect)
    (calm : ∀ call ∈ calls, call.IsReadable settings.dialect)
    (assigning : kind = .update → course.values ≠ []) :
    after.parameters.names = before.parameters.names ++ course.boundNames ∧
      (referencesIn (course.text kind) settings.dialect.parameterMarker).Perm
        (course.heldNames kind) := by
  obtain ⟨words, assigned, lost, kept⟩ := course.ledgers readable ready calm
  obtain ⟨-, assignedSize, assignedNames, readsAssigned, assignedPerm, -⟩ := assigned
  obtain ⟨readyAfter, keptSize, keptNames, readsKept, keptPerm, -⟩ := kept
  have sizeAtCondition : course.atCondition.parameters.size =
      before.parameters.size + Operation.assignedSlots course.values + course.lostSlots := by
    rw [lost.size, assignedSize]
  rw [sizeAtCondition] at keptSize keptPerm
  have conditioned := readsApart_condition readable.marker readsKept
  obtain ⟨names, reads, perm⟩ : ∃ names,
      Reads settings.dialect.parameterMarker (course.text kind) names ∧
        names.Perm (course.heldNames kind) := by
    by_cases isUpdate : kind = .update
    · have some : course.assigned ≠ [] := fun none =>
        assigning isUpdate (List.eq_nil_of_length_eq_zero (by
          rw [← length_each course.assigns, none, List.length_nil]))
      refine ⟨assignedNames ++ keptNames, ?_, ?_⟩
      · exact WriteDraft.reads_of_assemble readable.marker words.declaration (.inl isUpdate)
          ⟨_, _, rfl, readsAssigned, conditioned⟩
          (WriteDraft.assemble_eq_ok_iff.mpr ⟨fun _ => some, rfl⟩)
      · rw [heldNames, if_pos isUpdate]
        exact assignedPerm.append keptPerm
    · -- a statement that is no update has the words of one without assignments
      refine ⟨keptNames, ?_, ?_⟩
      · refine WriteDraft.reads_of_assemble readable.marker words.declaration (.inr rfl)
          ⟨[], _, rfl, .nil, conditioned⟩
          (WriteDraft.assemble_eq_ok_iff.mpr ⟨fun update => absurd update isUpdate, ?_⟩)
        simp [text, WriteDraft.wording, isUpdate]
      · rwa [heldNames, if_neg isUpdate]
  constructor
  · rw [readyAfter.numbered, ready.numbered, keptSize, Nat.add_assoc, Nat.add_assoc,
      Dialect.numberedNames_add, Nat.zero_add, boundNames, Nat.add_assoc]
  · have found : referencesIn (course.text kind) settings.dialect.parameterMarker = names := by
      simpa [referencesIn, referencesFrom] using reads.references [] separated_nil
    rwa [found]

end WriteCourse

/--
The clauses that a built statement holds occur in it, and they are all that was accepted only if
no delete assigns and no condition follows another one. With readable names the statement refers
to every parameter that is bound only if none is bound for what it does not hold.
-/
theorem WriteDraft.build_holds
    {registry : Resolvers}
    {kind : OperationKind}
    {calls : List WriteCall}
    {text : String}
    (run : build registry kind calls settings before = (.ok text, after)) :
    ∃ course : WriteCourse registry calls settings before after,
      text = course.text kind ∧
      (∀ found ∈ course.written kind, Occurs found text) ∧
      (course.written kind = course.clauses ↔
        (kind = .update ∨ course.values = []) ∧ course.overwritten = []) ∧
      (registry = .standard → settings.dialect.IsReadable → before.Ready settings.dialect →
        (∀ call ∈ calls, call.IsReadable settings.dialect) →
          after.parameters.names = before.parameters.names ++ course.boundNames ∧
          (referencesIn text settings.dialect.parameterMarker).Perm (course.heldNames kind) ∧
          ((referencesIn text settings.dialect.parameterMarker).Perm course.boundNames ↔
            (kind = .update ∨ Operation.assignedSlots course.values = 0) ∧
              course.lostSlots = 0)) := by
  obtain ⟨course, isWrite, rfl⟩ := exists_course run
  refine ⟨course, rfl, fun found => course.occurs_text kind, course.written_eq_clauses_iff kind, ?_⟩
  rintro rfl readable ready calm
  have assigning : kind = .update → course.values ≠ [] := by
    rintro rfl
    exact (isWrite.resolve_right nofun).2
  obtain ⟨bound, held⟩ := course.references readable ready calm assigning
  have exactly := course.heldNames_perm_boundNames_iff kind
  exact ⟨bound, held, (held.congr_left _).trans exactly⟩

/-- Orders are held under one condition, and then under another one. -/
def Sample.heldOrders : List WriteCall :=
  [.target (Target.named "order"), .set status (.constant (.string "held")),
    .filter (hasStatus "open"),
    .filter (.compare (.path total) (.greater false) (.constant (.integer 100)))]

/-- The first of two conditions is lost, while its parameter stays bound. -/
theorem WriteDraft.heldOrders_lost :
    let settings : Settings := ⟨Dialect.standard .hibernate, "default", standardDepthLimit⟩
    let text := "UPDATE order orde_0_0 SET orde_0_0.status=:p0001 WHERE orde_0_0.total>:p0003"
    ∃ after,
      build .standard .update Sample.heldOrders settings (.root .auto none) = (.ok text, after) ∧
      after.parameters.names = ["p0001", "p0002", "p0003"] ∧
      ∃ course : WriteCourse .standard Sample.heldOrders settings (.root .auto none) after,
        course.written .update ≠ course.clauses ∧
        (referencesIn text ':').Perm (course.heldNames .update) ∧
        ¬ (referencesIn text ':').Perm after.parameters.names := by
  intro settings text
  have outcome :
      let run := build .standard .update Sample.heldOrders settings (.root .auto none)
      run.1.toOption = some text ∧ run.2.parameters.names = ["p0001", "p0002", "p0003"] := by
    decide +kernel
  have found : referencesIn text ':' = ["p0001", "p0003"] := by decide +kernel
  cases run : build .standard .update Sample.heldOrders settings (.root .auto none) with
  | mk result after =>
      rw [run] at outcome
      obtain ⟨written, allocated⟩ := outcome
      obtain rfl := Except.eq_ok_of_toOption written
      obtain ⟨course, -, -, complete, references⟩ := build_holds run
      have readable : settings.dialect.IsReadable :=
        ⟨⟨by decide, by decide, by decide, by decide⟩, by decide, rfl⟩
      have calm : ∀ call ∈ Sample.heldOrders, call.IsReadable settings.dialect := by
        simp only [Sample.heldOrders, List.forall_mem_cons]
        have dotted : isDottedIdentifier "order" = true ∧ isDottedIdentifier "status" = true ∧
            isDottedIdentifier "total" = true := by decide
        refine ⟨⟨⟨dotted.1, nofun⟩, nofun⟩, ⟨dotted.2.1, trivial, ?_⟩, ⟨dotted.2.1, trivial⟩,
          ⟨dotted.2.2, trivial⟩, nofun⟩
        rintro _ ⟨⟩
        decide
      obtain ⟨bound, held, all⟩ := references rfl readable (.root .auto nofun) calm
      have names : course.boundNames = ["p0001", "p0002", "p0003"] := by
        rw [← allocated, bound]
        rfl
      have missing : ¬ (referencesIn text ':').Perm course.boundNames := by
        rw [found, names]
        decide
      refine ⟨after, rfl, by rw [bound, names]; rfl, course, fun same => ?_, held, ?_⟩
      · obtain ⟨-, none⟩ := complete.mp same
        exact missing (all.mpr ⟨.inl rfl, by simp [WriteCourse.lostSlots, none]⟩)
      · rw [bound]
        exact missing

end ObjectQuery
