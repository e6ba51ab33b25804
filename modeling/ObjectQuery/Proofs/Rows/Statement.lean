import ObjectQuery.Compiler.Basic
import ObjectQuery.Proofs.Rows.Plans
import ObjectQuery.Sample

/-!
# Rows of compiled selects

What a select gives back is known before it runs. A record has the fields of the projection, in
order, and a value that is null or of the type that was found at resolution. It does not matter
whether a row comes as an array or as a tuple under the names of the select list, in any order
of columns, as long as the names are distinct. Those of projected properties always are; those
of all columns of an entity are the attributes of the catalog, whatever they are.
-/

namespace ObjectQuery

open Resolution RowReader

/-! ## Rows of a projection -/

theorem ProjectionPlan.map_fst_field (columns : List (String × String × ValueType)) :
    (columns.map field).map Prod.fst = columns.map Prod.fst := by
  simp [field, Function.comp_def]

theorem ProjectionPlan.aliases_record
    (shape : RowShape)
    (columns : List (String × String × ValueType)) :
    (record shape columns).selections.map Selection.aliasName =
      (columns.map field).map fun field => some field.1 := by
  simp [record, field, Function.comp_def]

/-- Projected properties select the items under their names. An array row of cells, one for each
item, and a tuple row of the same cells under the names of the select list, in any order of
columns, are read alike: as the record of the cells, each taken to the type of its item, or
with the same error. The record has one field for each item, in the order of the items. -/
theorem Resolvers.planOf_properties_reads_alike
    {settings : Settings}
    {before after : Context}
    {items : List NamedProperty}
    {plan : ProjectionPlan}
    (planned : Resolvers.standard.planOf (.projection (.properties items)) settings before =
      (.ok plan, after)) :
    plan.selections.map Selection.aliasName =
        (items.map NamedProperty.field).map (fun field => some field.1) ∧
      ∀ (cells : List Value) (tuple : List (String × Value)),
        cells.length = items.length →
          tuple.Perm ((plan.selections.filterMap Selection.aliasName).zip cells) →
            plan.converter.read (.tuple tuple) = plan.converter.read (.array cells) ∧
              plan.converter.read (.array cells) =
                (fieldsOf ((items.map NamedProperty.field).zip cells)).map .record ∧
              ∀ content, plan.converter.read (.array cells) = .ok content →
                ∃ fields, content = .record fields ∧
                  fields.map Prod.fst = (items.map NamedProperty.field).map Prod.fst := by
  obtain ⟨valid, planned⟩ := planOf_planned _ _ _ planned
  cases planned with
  | single text aliasName isSingle => simp [Projection.hasSeveralColumns] at isSingle
  | record shape columns sameFields =>
      obtain fields : items.map NamedProperty.field = columns.map ProjectionPlan.field :=
        Option.some.inj sameFields
      have distinct : (columns.map Prod.fst).Nodup := by
        simp only [Validation.projection, Validation.andThen_ok_iff] at valid
        have names := (Validation.names_of_projectionItems valid.2).2
        rwa [fields, ProjectionPlan.map_fst_field] at names
      have aliases : (ProjectionPlan.record shape columns).selections.filterMap
          Selection.aliasName = columns.map Prod.fst := by
        simp [ProjectionPlan.record, List.filterMap_map]
      refine ⟨by rw [ProjectionPlan.aliases_record, fields], fun cells tuple asMany named => ?_⟩
      have asMany : cells.length = columns.length := by
        simpa [asMany] using congrArg List.length fields
      rw [aliases] at named
      have array := readRecord_array asMany
      refine ⟨(readRecord_tuple asMany distinct named).trans array.symm,
        array.trans (by rw [fields]), fun content read => ?_⟩
      have read : readRecord (ProjectionPlan.columnsFrom 0 columns) (.array cells) =
          .ok content := read
      obtain ⟨found, rfl, conforms⟩ := conforms_of_readRecord read
      rw [ProjectionPlan.map_field_columnsFrom, ← fields] at conforms
      exact ⟨found, rfl, map_fst_of_conforms conforms⟩

/-- The status and the number of some orders, with the columns of the tuple the other way round. -/
theorem statusAndCount_reads_alike :
    let settings := Compiler.settings
      ⟨.standard .hibernate, (Configuration.standard .hibernate).dialect, .standard, none⟩
    let count := Expression.function (.unary .count (.path Sample.identifier))
    let items : List NamedProperty :=
      [.mk "status" (.path Sample.status), .mk "orders" count]
    ∃ plan after,
      Resolvers.standard.planOf (.projection (.properties items)) settings
          (Context.root .auto none) = (.ok plan, after) ∧
        plan.converter.read (.tuple [("orders", .integer 3), ("status", .enum "open")]) =
          plan.converter.read (.array [.enum "open", .integer 3]) ∧
        plan.converter.read (.array [.enum "open", .integer 3]) =
          .ok (.record [("status", .string "open"), ("orders", .integer 3)]) := by
  intro settings count items
  have succeeds : (Resolvers.standard.planOf (.projection (.properties items)) settings
      (Context.root .auto none)).1.toOption.isSome = true := by
    decide +kernel
  cases run : Resolvers.standard.planOf (.projection (.properties items)) settings
      (Context.root .auto none) with
  | mk outcome after =>
      rw [run] at succeeds
      obtain ⟨plan, shown⟩ := Option.isSome_iff_exists.mp succeeds
      obtain rfl := Except.eq_ok_of_toOption shown
      obtain ⟨aliases, alike⟩ := Resolvers.planOf_properties_reads_alike run
      have selected : plan.selections.filterMap Selection.aliasName = ["status", "orders"] := by
        have named : plan.selections.filterMap Selection.aliasName =
            (plan.selections.map Selection.aliasName).filterMap id := by
          simp [List.filterMap_map]
        rw [named, aliases]
        rfl
      obtain ⟨same, read, -⟩ := alike [.enum "open", .integer 3]
        [("orders", .integer 3), ("status", .enum "open")] rfl (by
          rw [selected]
          exact .swap _ _ _)
      exact ⟨plan, after, rfl, same, read.trans rfl⟩

/-! ## Rows of a statement -/

namespace Compiler

/-- The attributes that the compiler's catalog gives for the target of an operation. -/
def rootAttributes (compiler : Compiler) (operation : Operation) : List Attribute :=
  (compiler.context operation).attributesOf compiler.settings operation.target.name

variable {compiler : Compiler} {operation : Operation} {statement : Statement}

/-- The columns of the records that are read, if it is records. -/
def columns? : RowReader → Option (List RowColumn)
  | .record columns => some columns
  | .scalar _ | .constant _ | .entity _ | .custom _ => none

/-- An operation whose compilation shows columns compiles to a statement that reads records. -/
theorem exists_of_columns?
    {columns : List RowColumn}
    (shown : (compiler.compile operation).1.toOption.bind (fun statement =>
      statement.converter.bind columns?) = some columns) :
    ∃ statement,
      (compiler.compile operation).1 = .ok statement ∧
        statement.converter = some (.record columns) := by
  obtain ⟨statement, isStatement, shows⟩ := Option.bind_eq_some_iff.mp shown
  obtain ⟨converter, reads, found⟩ := Option.bind_eq_some_iff.mp shows
  cases converter with
  | record others =>
      cases found
      exact ⟨statement, Except.eq_ok_of_toOption isStatement, reads⟩
  | _ => cases found

/-- A statement that reads rows has the plan of the operation's projection. -/
theorem exists_planned
    {converter : RowReader}
    (standard : compiler.registry = Resolvers.standard)
    (compiled : (compiler.compile operation).1 = .ok statement)
    (reads : statement.converter = some converter) :
    ∃ plan,
      statement.selections = plan.selections ∧
        statement.shape = some plan.shape ∧
        converter = plan.converter ∧
        Validation.projection (operation.projection.getD .entity) = .ok () ∧
        (operation.projection.getD .entity).Planned (compiler.rootAttributes operation) plan := by
  obtain ⟨composed, after, run, rfl⟩ := exists_composed compiled
  rw [standard] at run
  have composes : (operation.compose .standard).Ensures compiler.settings
      (compiler.context operation) fun composed _ =>
        ∀ plan, composed.plan = some plan →
          Validation.projection (operation.projection.getD .entity) = .ok () ∧
            (operation.projection.getD .entity).Planned (compiler.rootAttributes operation)
              plan := by
    refine .bindContext ?_
    split
    · refine .bindChecked fun valid => ?_
      split
      · refine (operation.composeSelect_planned rfl).weaken ?_
        rintro _ _ ⟨plan, hasPlan, planned⟩ found same
        obtain rfl : plan = found := Option.some.inj (hasPlan.symm.trans same)
        exact planned
      · refine (operation.composeWrite_planless _).weaken fun composed _ noPlan found same => ?_
        simp [noPlan] at same
    · exact .fail _
  obtain ⟨plan, hasPlan, rfl⟩ : ∃ plan, composed.plan = some plan ∧ plan.converter = converter := by
    simpa [Compiler.statement] using reads
  exact ⟨plan, by simp [Compiler.statement, hasPlan], by simp [Compiler.statement, hasPlan], rfl,
    composes composed after run plan hasPlan⟩

/-- The columns of a compiled record are selected under their names. These are the names of the
projected properties, which are pairwise distinct identifiers; or they are the attributes that the
catalog gives for the target, as they stand there. Every column has its own cell in every tuple
row exactly if the names are pairwise distinct. -/
theorem compile_record_columns
    {columns : List RowColumn}
    (standard : compiler.registry = Resolvers.standard)
    (compiled : (compiler.compile operation).1 = .ok statement)
    (reads : statement.converter = some (.record columns)) :
    ∃ selected fields,
      operation.projection = some selected ∧
        selected.fields? (compiler.rootAttributes operation) = some fields ∧
        statement.selections.map Selection.aliasName = fields.map (fun field => some field.1) ∧
        columns.map RowColumn.field = fields ∧
        (selected ≠ .selectAll →
          (fields.map Prod.fst).Nodup ∧ ∀ field ∈ fields, Text.isIdentifier field.1 = true) ∧
        (Addresses (fields.map Prod.fst) columns ↔ (fields.map Prod.fst).Nodup) := by
  obtain ⟨plan, selections, -, sameConverter, valid, planned⟩ :=
    exists_planned standard compiled reads
  obtain ⟨shape, named, rfl, rfl, fields⟩ := planned.exists_columns sameConverter.symm
  rw [selections]
  cases given : operation.projection with
  | none => simp [given, Projection.entity, Projection.fields?] at fields
  | some selected =>
      rw [given, Option.getD_some] at fields valid
      refine ⟨selected, named.map ProjectionPlan.field, rfl, fields,
        ProjectionPlan.aliases_record _ _, ProjectionPlan.map_field_columnsFrom _ _,
        fun notAll => ?_, ?_⟩
      · cases selected with
        | properties items =>
            simp only [Validation.projection, Validation.andThen_ok_iff] at valid
            obtain ⟨identifiers, distinct⟩ := Validation.names_of_projectionItems valid.2
            have names := Option.some.inj fields
            rw [← names]
            exact ⟨distinct, fun field member => (identifiers field member).1⟩
        | selectAll => exact absurd rfl notAll
        | _ => simp [Projection.fields?] at fields
      · rw [ProjectionPlan.map_fst_field]
        exact addresses_iff

/-- A catalog lists two attributes of one name. All columns of its entity are then selected under
that name, and a tuple row shows only one of them. -/
theorem repeated_attribute_not_addressed :
    let repeated := FixedCatalog.empty.withEntity
      ⟨"order", "PurchaseOrder", [⟨"id", .integer, true⟩, ⟨"id", .string, false⟩]⟩
    let compiler : Compiler :=
      ⟨.standard .hibernate, (Configuration.standard .hibernate).dialect, .standard,
        some (.fixed repeated)⟩
    let operation : Operation :=
      { Operation.of .select (Target.named "order") with projection := some .selectAll }
    let columns : List RowColumn :=
      [⟨"id", some "id", 0, .integer⟩, ⟨"id", some "id", 1, .string⟩]
    ∃ statement,
      (compiler.compile operation).1 = .ok statement ∧
        statement.converter = some (.record columns) ∧
        statement.selections.map Selection.aliasName = [some "id", some "id"] ∧
        ¬ Addresses ["id", "id"] columns := by
  intro repeated compiler operation columns
  obtain ⟨statement, compiled, reads⟩ : ∃ statement,
      (compiler.compile operation).1 = .ok statement ∧
        statement.converter = some (.record columns) :=
    exists_of_columns? (by decide +kernel)
  obtain ⟨selected, fields, -, -, aliases, rfl, -, addressed⟩ :=
    compile_record_columns rfl compiled reads
  exact ⟨statement, compiled, reads, aliases, fun addresses => by
    simpa [columns, RowColumn.field] using addressed.mp addresses⟩

/-- What a compiled select reads off a row of whichever kind is known before. A value is null or
of the projection's type, with which the statement's shape is recorded. The fields of a record are
those of the projection, in order, with values that are null or of the types recorded for the
columns. A second coercion to the type changes no value. An entity is handed on with its row. -/
theorem compile_read_conforms
    {row : Row}
    {content : RowContent}
    (standard : compiler.registry = Resolvers.standard)
    (compiled : (compiler.compile operation).1 = .ok statement)
    (read : statement.read row = .ok content) :
    let selected := operation.projection.getD .entity
    (∀ value, content = .value value →
      statement.shape = some (.scalar selected.valueType) ∧
        value.Fits selected.valueType ∧
        value.coerce selected.valueType = .ok value) ∧
      (∀ fields, content = .record fields →
        ∃ columns,
          statement.converter = some (.record columns) ∧
            selected.fields? (compiler.rootAttributes operation) =
              some (columns.map RowColumn.field) ∧
            List.Forall₂ Conforms (columns.map RowColumn.field) fields) ∧
      ∀ name found, content = .entity name found →
        statement.shape = some (.scalar (.entity name)) ∧ found = row := by
  intro selected
  cases reads : statement.converter with
  | none => simp [Statement.read, reads] at read
  | some converter =>
      simp only [Statement.read, reads] at read
      obtain ⟨plan, -, shape, rfl, -, planned⟩ := exists_planned standard compiled reads
      simpa only [shape, Option.some.injEq] using planned.conforms_of_read read

/-- The totals of orders by their status. The array holds a constant of an enumeration where a
text is selected, and an integer where a decimal is. -/
theorem totalsByStatus_conforms :
    let compiler : Compiler :=
      ⟨.standard .hibernate, (Configuration.standard .hibernate).dialect, .standard, none⟩
    let fields : List (String × Value) :=
      [("status", .string "open"), ("orders", .integer 2), ("revenue", .decimal "270")]
    ∃ statement,
      (compiler.compile Sample.totalsByStatus).1 = .ok statement ∧
        statement.read (.array [.enum "open", .integer 2, .integer 270]) = .ok (.record fields) ∧
        List.Forall₂ Conforms [("status", .string), ("orders", .integer), ("revenue", .decimal)]
          fields := by
  intro compiler fields
  let columns : List RowColumn :=
    [⟨"status", some "status", 0, .string⟩, ⟨"orders", some "orders", 1, .integer⟩,
      ⟨"revenue", some "revenue", 2, .decimal⟩]
  obtain ⟨statement, compiled, reads⟩ : ∃ statement,
      (compiler.compile Sample.totalsByStatus).1 = .ok statement ∧
        statement.converter = some (.record columns) :=
    exists_of_columns? (by decide +kernel)
  have read : statement.read (.array [.enum "open", .integer 2, .integer 270]) =
      .ok (.record fields) := by
    rw [Statement.read, reads]
    rfl
  obtain ⟨found, recorded, -, conforms⟩ :=
    (compile_read_conforms rfl compiled read).2.1 fields rfl
  obtain rfl : columns = found := by simpa [reads] using recorded
  exact ⟨statement, compiled, read, conforms⟩

end Compiler
end ObjectQuery
