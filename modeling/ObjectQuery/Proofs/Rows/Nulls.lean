import ObjectQuery.Proofs.Rows.Plans
import ObjectQuery.Resolution.Scripted

/-!
# Rows of nulls

Null fits every type, so an array of nulls shows whether a record can be read off arrays at all.
A plan without a fault has all its columns within the select list, and the array has a cell for
each of them. Even so the record is read only if there are as many columns as selections, which
the check of a plan does not ask for. The plans of the library itself have as many.
-/

namespace ObjectQuery

/-- A row with a null for each entry of a select list. -/
def Row.nulls (selections : Nat) : Row :=
  .array (List.replicate selections .null)

/-- The record in which each column is null. -/
def RowContent.nulls (columns : List RowColumn) : RowContent :=
  .record (columns.map fun column => (column.name, .null))

namespace RowReader

theorem recordFields_nulls
    {find : RowColumn → Except RowError Value}
    {columns : List RowColumn}
    (finds : ∀ column ∈ columns, find column = .ok .null) :
    recordFields find columns = .ok (columns.map fun column => (column.name, .null)) := by
  induction columns with
  | nil => rfl
  | cons column rest inductionHypothesis =>
      obtain ⟨found, others⟩ := List.forall_mem_cons.mp finds
      have taken : Value.null.coerce column.valueType = .ok .null := by simp [Value.coerce]
      rw [recordFields, found, inductionHypothesis others]
      simp [taken, Bind.bind, Except.bind]

theorem arrayCell_nulls
    {selections : Nat}
    {column : RowColumn}
    (within : column.position < selections) :
    arrayCell (List.replicate selections .null) column = .ok .null := by
  simp [arrayCell, within]

/-- With its columns within the select list a record is read off nulls if it has as many columns,
and refused for their number if it has not. -/
theorem readRecord_nulls
    {columns : List RowColumn}
    {selections : Nat}
    (within : (RowReader.record columns).columnsWithin selections = true) :
    readRecord columns (.nulls selections) =
      if selections = columns.length then .ok (.nulls columns)
      else .error (.arityMismatch columns.length selections) := by
  have finds : ∀ column ∈ columns,
      arrayCell (List.replicate selections .null) column = .ok .null := by
    intro column member
    exact arrayCell_nulls (by simpa using List.all_eq_true.mp within column member)
  rw [Row.nulls, readRecord, List.length_replicate, recordFields_nulls finds]
  rfl

end RowReader

/-! ## Plans with as many columns as selections -/

/-- A record that is read by the plan has as many columns as the select list has entries. -/
def ProjectionPlan.AsMany (plan : ProjectionPlan) : Prop :=
  ∀ columns, plan.converter = .record columns → columns.length = plan.selections.length

/-- A plan that is not read as a record has no columns that could be too few. -/
theorem ProjectionPlan.asMany_of_ne_record
    {plan : ProjectionPlan}
    (noRecord : ∀ columns, plan.converter ≠ .record columns) :
    plan.AsMany :=
  fun columns same => absurd same (noRecord columns)

theorem ProjectionPlan.scalar_asMany
    (fragment : String)
    (aliasName : Option String)
    (valueType : ValueType) :
    (scalar fragment aliasName valueType).AsMany :=
  asMany_of_ne_record (by simp [scalar])

theorem ProjectionPlan.record_asMany
    (shape : RowShape)
    (columns : List (String × String × ValueType)) :
    (record shape columns).AsMany := by
  rintro _ ⟨⟩
  simp [record, length_columnsFrom]

namespace BuiltIn

open Resolution

variable {settings : Settings} {before : Context}

/-- However the parts are resolved, the library's own plan of a record has a column for each
selection. -/
theorem projection_asMany (registry : Resolvers) (selected : Projection) :
    (projection registry selected).Ensures settings before fun plan _ => plan.AsMany := by
  cases selected with
  | path found =>
      simp only [projection]
      exact Ensures.bindAny fun text after => .pure (ProjectionPlan.scalar_asMany _ _ _)
  | function call =>
      simp only [projection]
      exact Ensures.bindAny fun text after => .pure (ProjectionPlan.scalar_asMany _ _ _)
  | constant value =>
      simp only [projection, constantPlan]
      exact .bindDialect <| Ensures.bindAny fun text after =>
        .pure (ProjectionPlan.asMany_of_ne_record (by simp))
  | target name =>
      simp only [projection, entityPlan]
      exact Ensures.bindAny fun binding after =>
        .pure (ProjectionPlan.asMany_of_ne_record (by simp))
  | properties items =>
      simp only [projection]
      exact Ensures.bindAny fun columns after =>
        .bindDialect (.pure (ProjectionPlan.record_asMany _ _))
  | selectAll =>
      simp only [projection, attributesPlan]
      refine .bindContext ?_
      split
      · exact .fail _
      · split
        · exact .unsupported _
        · exact .bindDialect (.pure (ProjectionPlan.record_asMany _ _))
  | countAll =>
      simp only [projection, countPlan]
      exact .bindContext <| Ensures.bindAny fun text after =>
        .pure (ProjectionPlan.scalar_asMany _ _ _)

end BuiltIn

namespace ProjectionPlan

variable {plan : ProjectionPlan}

theorem columnsWithin_of_sound (sound : plan.fault? = none) :
    plan.converter.columnsWithin plan.selections.length = true := by
  unfold fault? at sound
  split at sound
  · cases sound
  · split at sound
    · cases sound
    · split at sound
      · assumption
      · cases sound

/--
A plan without a fault reads the record of nulls off an array with a null for each selection if
it has a column for each of them, and else refuses the array for the number of its cells; in no
case is a column missing. What the library's own resolver plans, whatever registry it resolves
the parts with, has a column for each selection and is always read.
-/
theorem read_nulls
    {columns : List RowColumn}
    (sound : plan.fault? = none)
    (records : plan.converter = .record columns) :
    plan.converter.read (.nulls plan.selections.length) =
        (if plan.selections.length = columns.length then .ok (.nulls columns)
          else .error (.arityMismatch columns.length plan.selections.length)) ∧
      ∀ registry settings selected before after,
        BuiltIn.projection registry selected settings before = (.ok plan, after) →
          plan.converter.read (.nulls plan.selections.length) = .ok (.nulls columns) := by
  have within := columnsWithin_of_sound sound
  rw [records] at within
  have reads : plan.converter.read (.nulls plan.selections.length) =
      if plan.selections.length = columns.length then .ok (.nulls columns)
      else .error (.arityMismatch columns.length plan.selections.length) := by
    rw [records, RowReader.read, RowReader.readRecord_nulls within]
  refine ⟨reads, fun registry settings selected before after planned => ?_⟩
  have asMany := BuiltIn.projection_asMany registry selected plan after planned columns records
  rw [reads, if_pos asMany.symm]

/-- A host's plan of two selections whose only column is the second one: the plan has no fault, and
no array that has a cell for each selection is read. -/
theorem secondOfTwo_not_read :
    let plan := scripted ["orde_0_0.id", "orde_0_0.total"] (some 1)
    plan.fault? = none ∧
      plan.converter.read (.nulls 2) = .error (.arityMismatch 1 2) := by
  intro plan
  have sound : plan.fault? = none := by decide +kernel
  have records : plan.converter = .record [⟨"c", none, 1, .any⟩] := rfl
  exact ⟨sound, (read_nulls sound records).1⟩

end ProjectionPlan
end ObjectQuery
