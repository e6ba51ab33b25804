import ObjectQuery.Proofs.Frame.Statement
import ObjectQuery.Proofs.Rows.Records

/-!
# Plans of projections

The library's own resolvers plan a projection of one column as a value of the projection's type,
a constant as that constant, a target as an entity, and a projection of several columns as a
record whose fields are those of the projection. Only the texts of the select list depend on how
the parts are resolved.

All columns of the root target are those of the catalog: the first target that a select binds
has the attributes that the catalog gives for its name, and stays the first.
-/

namespace ObjectQuery

open Resolution

/-! ## Fields -/

/-- The name of a projected property, with the type of its value. -/
def NamedProperty.field : NamedProperty → String × ValueType
  | .mk name item => (name, item.valueType)

/-- The name of an attribute, with its type. -/
def Attribute.field (found : Attribute) : String × ValueType :=
  (found.name, found.valueType)

/-- The fields of a projection of several columns, given the attributes of the root target. -/
def Projection.fields? (attributes : List Attribute) :
    Projection → Option (List (String × ValueType))
  | .properties items => some (items.map NamedProperty.field)
  | .selectAll => some (attributes.map Attribute.field)
  | .path _ | .function _ | .constant _ | .target _ | .countAll => none

/-- A plan that says of the rows what is known of the projection. -/
inductive Projection.Planned (attributes : List Attribute) : Projection → ProjectionPlan → Prop
  | single
      {selected : Projection}
      (text : String)
      (aliasName : Option String)
      (isSingle : selected.hasSeveralColumns = false) :
      Planned attributes selected (.scalar text aliasName selected.valueType)
  | constant (value : Value) (text : String) :
      Planned attributes (.constant value)
        ⟨[⟨text, none⟩], .scalar value.valueType, .constant value⟩
  | entity (name : Option String) (text entity : String) :
      Planned attributes (.target name)
        ⟨[⟨text, none⟩], .scalar (.entity entity), .entity entity⟩
  | record
      {selected : Projection}
      (shape : RowShape)
      (columns : List (String × String × ValueType))
      (fields : selected.fields? attributes = some (columns.map ProjectionPlan.field)) :
      Planned attributes selected (.record shape columns)

namespace Projection.Planned

variable
  {attributes : List Attribute}
  {selected : Projection}
  {plan : ProjectionPlan}
  (planned : selected.Planned attributes plan)

include planned

/-- Only a projection of several columns has a plan that reads records. -/
theorem exists_columns
    {columns : List RowColumn}
    (records : plan.converter = .record columns) :
    ∃ shape named,
      plan = .record shape named ∧
        columns = ProjectionPlan.columnsFrom 0 named ∧
        selected.fields? attributes = some (named.map ProjectionPlan.field) := by
  cases planned with
  | single text aliasName => cases records
  | constant value text => cases records
  | entity name text entity => cases records
  | record shape named fields =>
      cases records
      exact ⟨shape, named, rfl, rfl, fields⟩

/-- A value that is read is null or of the projection's type, a record has the fields of the
projection, and an entity is handed on with its row. -/
theorem conforms_of_read
    {row : Row}
    {content : RowContent}
    (read : plan.converter.read row = .ok content) :
    (∀ value, content = .value value →
      plan.shape = .scalar selected.valueType ∧
        value.Fits selected.valueType ∧
        value.coerce selected.valueType = .ok value) ∧
      (∀ fields, content = .record fields →
        ∃ columns,
          plan.converter = .record columns ∧
            selected.fields? attributes = some (columns.map RowColumn.field) ∧
            List.Forall₂ RowReader.Conforms (columns.map RowColumn.field) fields) ∧
      ∀ name found, content = .entity name found →
        plan.shape = .scalar (.entity name) ∧ found = row := by
  cases planned with
  | single text aliasName =>
      obtain ⟨cell, coerced, -, taken, rfl⟩ := RowReader.read_scalar_eq_ok read
      refine ⟨?_, fun _ => nofun, fun _ _ => nofun⟩
      rintro _ ⟨⟩
      exact ⟨rfl, Value.fits_of_coerce taken⟩
  | constant value text =>
      cases read
      refine ⟨?_, fun _ => nofun, fun _ _ => nofun⟩
      rintro _ ⟨⟩
      have fits := Value.fits_valueType value
      exact ⟨rfl, fits, Value.coerce_eq_ok_iff.mpr (Value.coerce?_eq_self_iff.mpr fits)⟩
  | entity name text entity =>
      cases read
      refine ⟨fun _ => nofun, fun _ => nofun, ?_⟩
      rintro _ _ ⟨⟩
      exact ⟨rfl, rfl⟩
  | record shape named sameFields =>
      obtain ⟨fields, rfl, conforms⟩ := RowReader.conforms_of_readRecord read
      refine ⟨fun _ => nofun, ?_, fun _ _ => nofun⟩
      rintro _ ⟨⟩
      refine ⟨_, rfl, ?_, conforms⟩
      rw [sameFields, ProjectionPlan.map_field_columnsFrom]

end Projection.Planned

/-- The names of projected properties are identifiers, and pairwise distinct. -/
theorem Validation.names_of_projectionItems
    {earlier : List String}
    {items : List NamedProperty}
    (valid : Validation.projectionItems earlier items = .ok ()) :
    (∀ field ∈ items.map NamedProperty.field,
        Text.isIdentifier field.1 = true ∧ field.1 ∉ earlier) ∧
      ((items.map NamedProperty.field).map Prod.fst).Nodup := by
  induction items generalizing earlier with
  | nil => simp
  | cons first rest inductionHypothesis =>
      obtain ⟨name, item⟩ := first
      simp only [Validation.projectionItems, Validation.andThen_ok_iff,
        Validation.require_ok_iff] at valid
      obtain ⟨isIdentifier, isNew, -, -, validRest⟩ := valid
      obtain ⟨others, distinct⟩ := inductionHypothesis validRest
      constructor
      · refine List.forall_mem_cons.mpr ⟨⟨isIdentifier, ?_⟩, fun field member => ?_⟩
        · simpa [NamedProperty.field] using isNew
        · obtain ⟨found, notEarlier⟩ := others field member
          exact ⟨found, fun old => notEarlier (List.mem_cons_of_mem _ old)⟩
      · refine List.nodup_cons.mpr ⟨fun again => ?_, distinct⟩
        obtain ⟨field, member, same⟩ := List.mem_map.mp again
        exact (others field member).2 (same ▸ List.mem_cons_self)

/-! ## The library's own plans -/

/-- The attributes of the first target of the scope in hand. -/
def Context.rootAttributes (context : Context) : List Attribute :=
  context.rootTarget?.elim [] BoundTarget.attributes

namespace BuiltIn

variable {settings : Settings} {before : Context}

/-- Whatever their texts, the columns of projected properties have their names and types. -/
theorem projectionItems_fields (items : List NamedProperty) :
    (projectionItems .standard items).Ensures settings before fun columns _ =>
      columns.map ProjectionPlan.field = items.map NamedProperty.field := by
  induction items generalizing before with
  | nil =>
      simp only [projectionItems]
      exact .pure rfl
  | cons first rest inductionHypothesis =>
      obtain ⟨name, item⟩ := first
      simp only [projectionItems, projectionItem]
      have column : (do
          let text ← Resolvers.standard.fragment item (answer .standard item)
          return (name, text, item.valueType) : Resolution _).Ensures settings before
            fun column _ => ProjectionPlan.field column = (name, item.valueType) :=
        Ensures.bindAny fun text after => .pure rfl
      refine column.bind fun column between field => ?_
      refine inductionHypothesis.bind fun columns after fields => .pure ?_
      rw [List.map_cons, List.map_cons, field, fields]
      rfl

theorem attributesPlan_planned :
    attributesPlan.Ensures settings before fun plan _ =>
      Projection.selectAll.Planned before.rootAttributes plan := by
  refine .bindContext ?_
  split
  · exact .fail _
  · next binding root =>
      split
      · exact .unsupported _
      · refine .bindDialect (.pure (.record _ _ ?_))
        simp [Projection.fields?, Context.rootAttributes, root, Attribute.field,
          ProjectionPlan.field, Function.comp_def]

theorem projection_planned (selected : Projection) :
    (projection .standard selected).Ensures settings before fun plan _ =>
      selected.Planned before.rootAttributes plan := by
  cases selected with
  | path found =>
      simp only [projection]
      exact Ensures.bindAny fun text after =>
        .pure (.single text found.aliasName rfl)
  | function call =>
      simp only [projection]
      exact Ensures.bindAny fun text after =>
        .pure (.single text none rfl)
  | constant value =>
      simp only [projection, constantPlan]
      exact .bindDialect (Ensures.bindAny fun text after =>
        .pure (.constant value text))
  | target name =>
      simp only [projection, entityPlan]
      exact Ensures.bindAny fun binding after =>
        .pure (.entity name _ _)
  | properties items =>
      simp only [projection]
      refine (projectionItems_fields items).bind fun columns after fields => ?_
      exact .bindDialect (.pure (.record _ columns (congrArg some fields.symm)))
  | selectAll =>
      simp only [projection]
      exact attributesPlan_planned
  | countAll =>
      simp only [projection, countPlan]
      exact .bindContext (Ensures.bindAny fun text after =>
        .pure (.single text none rfl))

end BuiltIn

variable {settings : Settings} {before : Context}

theorem Resolvers.planOf_planned (selected : Projection) :
    (standard.planOf (.projection selected)).Ensures settings before fun plan _ =>
      Validation.projection selected = .ok () ∧ selected.Planned before.rootAttributes plan := by
  have owns (valid : (Expression.projection selected).validate = .ok ()) :
      (BuiltIn.answer .standard (.projection selected)).Ensures settings before
        (Resolved.Ensures (fun _ _ => True) fun plan _ =>
          Validation.projection selected = .ok () ∧
            selected.Planned before.rootAttributes plan) := by
    simp only [Expression.validate, Validation.expression] at valid
    simp only [BuiltIn.answer]
    exact (BuiltIn.projection_planned selected).bind fun plan after planned =>
      .pure ⟨valid, planned⟩
  exact (plan_ensures owns).weaken fun _ _ taken => taken.2

/-! ## The root target -/

/-- The attributes in the answer of a catalog, if there is a catalog and it knows the name. -/
def Catalog.attributesIn : Option (Except CatalogError Entity) → List Attribute
  | some (.ok found) => found.attributes
  | some (.error _) | none => []

/-- The attributes that the catalog gives for a name. -/
def Context.attributesOf (context : Context) (settings : Settings) (name : String) :
    List Attribute :=
  Catalog.attributesIn (context.catalog.map fun catalog =>
    (catalog.resolve settings.catalogScope name).1)

/-- What the catalog says of a name, if there is a catalog. -/
def Context.answerFor (context : Context) (settings : Settings) (name : String) :
    Option (Except CatalogError Entity) :=
  context.catalog.map fun catalog => (catalog.resolve settings.catalogScope name).1

theorem Resolution.askCatalog_answers (name : String) :
    (askCatalog name).Ensures settings before fun answer _ =>
      answer = before.answerFor settings name := by
  intro answer after run
  simp only [askCatalog] at run
  split at run
  · next missing =>
      obtain ⟨rfl, -⟩ : none = answer ∧ before = after := by simpa using run
      rw [Context.answerFor, missing]
      rfl
  · next catalog present =>
      obtain ⟨rfl, -⟩ := by simpa using run
      rw [Context.answerFor, present]
      rfl

/-- Even a target whose entity the operation gives has the attributes of the catalog. -/
theorem Resolution.introduce_knows (target : Target) :
    (introduce target).Ensures settings before fun binding _ =>
      binding.attributes = before.attributesOf settings target.name := by
  have knows : (targetEntity target).Ensures settings before fun known _ =>
      known.2 = before.attributesOf settings target.name := by
    refine (askCatalog_answers target.name).bind fun answer after answered => ?_
    have attributes : before.attributesOf settings target.name = Catalog.attributesIn answer := by
      rw [answered]
      rfl
    rw [attributes]
    split
    · exact .pure rfl
    · next answer _ _ entity given unknown =>
        refine .pure ?_
        match answer, unknown with
        | none, _ => rfl
        | some (.error error), _ => rfl
        | some (.ok found), unknown => exact (unknown found rfl).elim
    · exact .pure rfl
    · exact .fail _
    · exact .pure rfl
  refine knows.bind fun known between attributes => ?_
  refine Ensures.bindAny fun aliasName allocated => ?_
  exact Ensures.bindAny fun _ after => .pure attributes

/-- The first target that a source binds in an empty scope is its own, whatever it joins. -/
theorem Resolvers.source_roots (target : Target) (fresh : before.current.bindings = []) :
    (standard.fragmentOf (.target target)).Ensures settings before fun _ after =>
      after.rootAttributes = before.attributesOf settings target.name := by
  have binds : (BuiltIn.target .standard target).Ensures settings before fun _ after =>
      after.rootAttributes = before.attributesOf settings target.name := by
    obtain ⟨name, entity, given, joined⟩ := target
    simp only [BuiltIn.target]
    refine ((introduce_knows _).and (BuiltIn.introduce_binds _)).bind ?_
    rintro binding between ⟨attributes, bound⟩
    refine (BuiltIn.joins_addsAliased joined between).bind ?_
    rintro text after ⟨others, bindings, -⟩
    refine .pure ?_
    rw [Context.rootAttributes, Context.rootTarget?, bindings, bound, fresh]
    exact attributes
  have answers : (BuiltIn.answer .standard (.target target)).Ensures settings before
      (Resolved.Ensures
        (fun _ after => after.rootAttributes = before.attributesOf settings target.name)
        fun _ _ => True) := by
    simp only [BuiltIn.answer]
    exact binds.bind fun text after roots => .pure roots
  exact (fragment_ensures fun _ => answers).weaken fun _ _ taken => taken.2

/-! ## Selects -/

/-- What keeps the scope in hand keeps its first target. -/
theorem Resolution.Keeps.roots
    {result : Type}
    {step : Resolution result}
    {attributes : List Attribute}
    (keeps : step.Keeps settings .all)
    (roots : before.rootAttributes = attributes) :
    step.Ensures settings before fun _ after => after.rootAttributes = attributes :=
  keeps.ensures.weaken fun _ after kept => by
    rwa [Context.rootAttributes, Context.rootTarget?, kept.current]

theorem SelectDraft.plan_of_assemble
    {draft : SelectDraft}
    {select : SelectText}
    (assembled : draft.assemble = .ok select) :
    draft.plan = some select.plan := by
  unfold assemble at assembled
  split at assembled
  · cases assembled
  · split at assembled
    · cases assembled
    · split at assembled
      · cases assembled
      · next plan planned =>
          split at assembled
          · cases assembled
          · cases assembled
            exact planned

/-- A select has the plan of its projection, which has passed its check. -/
theorem Operation.composeSelect_planned
    (operation : Operation)
    (fresh : before.current.bindings = []) :
    (operation.composeSelect .standard).Ensures settings before fun composed _ =>
      ∃ plan,
        composed.plan = some plan ∧
          Validation.projection (operation.projection.getD .entity) = .ok () ∧
          (operation.projection.getD .entity).Planned
            (before.attributesOf settings operation.target.name) plan := by
  have groups (grouping : Aggregation) :
      (Resolvers.standard.fragmentOf (.aggregation grouping)).Keeps settings .all :=
    Resolvers.fragmentOf_keeps (by simp [Expression.kind])
  have sorts (keys : List SortKey) :
      (Resolvers.standard.fragmentOf (.sort keys)).Keeps settings .all :=
    Resolvers.fragmentOf_keeps (by simp [Expression.kind])
  refine (SelectDraft.withTarget_ensures
    (Resolvers.source_roots operation.target fresh)).bind ?_
  rintro draft sourced ⟨-, -, roots⟩
  refine (Keeps.roots (Operation.stage_keeps (fun draft condition =>
    draft.withFilter_keeps (Resolvers.conditionOf_keeps condition)) _ _) roots).bind
      fun draft restricted roots => ?_
  refine (Keeps.roots (Operation.stage_keeps (fun draft grouping =>
    draft.withAggregation_keeps (groups grouping)) _ _) roots).bind
      fun draft grouped roots => ?_
  refine (Keeps.roots (Operation.stage_keeps (fun draft keys =>
    draft.withSort_keeps (sorts keys)) _ _) roots).bind fun draft sorted roots => ?_
  refine (SelectDraft.withProjection_ensures (Resolvers.planOf_planned _)).bind ?_
  rintro _ selects ⟨plan, rfl, valid, planned⟩
  rw [roots] at planned
  refine Ensures.bind (.ofExcept fun select assembled => ?_) fun select after ends => .pure ends
  obtain rfl : plan = select.plan := by simpa using SelectDraft.plan_of_assemble assembled
  exact ⟨select.plan, rfl, valid, planned⟩

/-- A write gives no rows. -/
theorem Operation.composeWrite_planless (operation : Operation) (registry : Resolvers) :
    (operation.composeWrite registry).Ensures settings before fun composed _ =>
      composed.plan = none :=
  .bindAny fun _ _ => .bindAny fun _ _ => .bindAny fun _ _ => .bindAny fun _ _ =>
    .bindAny fun _ _ => .pure rfl

end ObjectQuery
