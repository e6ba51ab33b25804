import ObjectQuery.Proofs.Frame.Statement
import ObjectQuery.Proofs.Parameters.Statement
import ObjectQuery.Proofs.Signs.Nodes
import ObjectQuery.Proofs.Sketch.Statement

/-!
# Signs of statements

Where an operation binds no parameter, a scan for references should find none in its statement.
It finds one exactly if the marker is among the signs that the operation writes in front of
names, and a configuration accepts each of these signs as marker. No other marker that it
accepts is ever taken for one.
-/

namespace ObjectQuery

open Text Resolution
open NodeCheck (wellNamed)
open Sketch (Signed SignedEach Detached)

/-! ## The signs of an operation -/

namespace Operation

/-- The parameters that an operation binds, whatever its kind writes of them. -/
def slots (operation : Operation) : Nat :=
  operation.selectSlots + assignedSlots operation.values

/-- The signs that the clauses after the source of a select write in front of names. -/
def clauseSigns (operation : Operation) : List Sign :=
  Filter.signsIfAny operation.filter ++
    (operation.aggregation.elim [] Aggregation.signs ++ operation.sort.elim [] SortKey.allSigns)

/-- The signs that an assignment writes in front of names. A sub-query is assigned without
parentheses, so that it begins with a word. -/
def assignmentSigns (assignment : Path × Expression) : List Sign :=
  CompareOperator.equal.sign.inFront assignment.2.begins ++ assignment.2.signs

/-- The signs that the statement of an operation writes in front of names. -/
def signs (operation : Operation) : List Sign :=
  match operation.kind with
  | .select =>
      (operation.projection.getD Projection.entity).signs ++
        (operation.target.signs ++ operation.clauseSigns)
  | .update => operation.values.flatMap assignmentSigns ++ Filter.signsIfAny operation.filter
  | .delete => Filter.signsIfAny operation.filter
  | .insert => []

end Operation

/-! ## Sketches of operations -/

variable {settings : Settings} {operation : Operation}

theorem Sketch.option_signed
    {node : Type}
    {sketch : node → Sketch}
    {signs : node → List Sign}
    (accepted : settings.dialect.IsAccepted)
    (found : Option node)
    (signed : ∀ given, found = some given → (sketch given).Signed settings (signs given)) :
    (found.elim (words "") fun given => (words " ").append (sketch given)).Signed settings
      (found.elim [] signs) := by
  cases found with
  | none => exact .words accepted (by decide)
  | some given => exact (signed given rfl).after_words accepted (by decide)

theorem Sketch.option_detached
    {node : Type}
    (sketch : node → Sketch)
    (found : Option node) :
    (found.elim (words "") fun given => (words " ").append (sketch given)).Detached settings := by
  cases found with
  | none => exact .words (by decide)
  | some given => exact .after_words (by decide) (by decide) _

theorem Target.declaration_signed (accepted : settings.dialect.IsAccepted) :
    {target : Target} → wellNamed.target target →
      (Sketch.declaration target).Signed settings []
  | .mk _ _ _ _, named => by
      simp only [NodeCheck.target] at named
      exact .declaration accepted named.1

theorem Projection.option_signed
    (accepted : settings.dialect.IsAccepted)
    (found : Option Projection)
    (named : ∀ selected, found = some selected → wellNamed.projection selected)
    (valid : Operation.validateClause Validation.projection found = .ok ())
    (unbound : (found.getD Projection.entity).slots = 0) :
    (found.getD Projection.entity).sketch.Signed settings
      (found.getD Projection.entity).signs := by
  cases found with
  | none =>
      exact Projection.entity.sketch_signed accepted
        (by simp [Projection.entity, NodeCheck.projection, wellNamed]) rfl unbound
  | some selected => exact selected.sketch_signed accepted (named selected rfl) valid unbound

namespace Operation

theorem clauses_signed
    (accepted : settings.dialect.IsAccepted)
    (named : wellNamed.Throughout operation)
    (valid : operation.validate = .ok ())
    (unbound : operation.selectSlots = 0) :
    operation.clauses.Signed settings operation.clauseSigns := by
  simp only [validate, Validation.andThen_ok_iff] at valid
  obtain ⟨-, validFilter, validGrouping, validOrdering, -⟩ := valid
  simp only [selectSlots, Nat.add_eq_zero_iff] at unbound
  obtain ⟨⟨⟨⟨-, noneInFilter⟩, noneInGrouping⟩, noneInOrdering⟩, -⟩ := unbound
  have filters := Filter.sketchAfter_signed accepted " WHERE " (by decide) operation.filter
    named.filter validFilter noneInFilter
  have groupings := Sketch.option_signed accepted operation.aggregation
    fun grouping given => grouping.sketch_signed accepted (named.aggregation grouping given)
      (by simpa [given, validateClause] using validGrouping)
      (by simpa [given] using noneInGrouping)
  have orderings := Sketch.option_signed accepted operation.sort
    fun keys given => (Expression.sort keys).sketch_signed accepted
      (by simpa [NodeCheck.expression] using named.sort keys given)
      (by simpa [given, validateClause] using validOrdering)
      (by simpa [given, Expression.slots] using noneInOrdering)
  have orderingsApart : (operation.sort.elim (Sketch.words "") fun keys =>
      (Sketch.words " ").append (Expression.sort keys).sketch).Detached settings :=
    Sketch.option_detached _ _
  simp only [Expression.signs] at orderings
  exact filters.append (groupings.append orderings orderingsApart)
    ((Sketch.option_detached _ _).append orderingsApart)

theorem clauses_detached : operation.clauses.Detached settings :=
  (Filter.sketchAfter_detached (by decide) (by decide) _).append
    ((Sketch.option_detached _ _).append (Sketch.option_detached _ _))

/-- An assignment that binds nothing writes no string, and so its value as elsewhere. -/
theorem assignment_signed
    (accepted : settings.dialect.IsAccepted)
    {path : Path}
    {value : Expression}
    (dotted : path.IsDotted)
    (named : wellNamed.expression value)
    (operand : value.isOperand = true)
    (valid : Validation.expression value = .ok ())
    (unbound : value.slots = 0) :
    (assignmentSketch (path, value)).Signed settings (assignmentSigns (path, value)) := by
  have notString : ∀ text, value ≠ .constant (.string text) := by
    rintro text rfl
    simp [Expression.slots, Value.slots] at unbound
  have column : (Sketch.mention (.property path)).Signed settings [] := by
    refine .mention accepted ?_
    rintro _ ⟨⟩
    exact dotted
  rw [assignmentSketch, WriteDraft.assignedSketch_eq_sketch notString]
  exact column.compared .equal
    ((value.sketch_begins accepted operand named valid unbound).expecting path.valueType)
    ((value.sketch_signed accepted named valid unbound).expecting path.valueType)

theorem assignments_signed
    (accepted : settings.dialect.IsAccepted)
    {values : List (Path × Expression)}
    (dotted : ∀ assignment ∈ values, assignment.1.IsDotted)
    (named : ∀ assignment ∈ values, wellNamed.expression assignment.2)
    (valid : validateValues values = .ok ())
    (unbound : assignedSlots values = 0) :
    SignedEach settings (values.map assignmentSketch) (values.flatMap assignmentSigns) := by
  induction values with
  | nil => exact .nil
  | cons assignment rest inductionHypothesis =>
      obtain ⟨dottedHere, dottedRest⟩ := List.forall_mem_cons.mp dotted
      obtain ⟨namedHere, namedRest⟩ := List.forall_mem_cons.mp named
      simp only [validateValues, Validation.andThen_ok_iff, Validation.require_ok_iff] at valid
      obtain ⟨-, operand, validValue, validRest⟩ := valid
      simp only [assignedSlots, List.map_cons, List.sum_cons, Nat.add_eq_zero_iff] at unbound
      exact .cons
        (assignment_signed accepted dottedHere namedHere operand validValue unbound.1)
        (inductionHypothesis dottedRest namedRest validRest unbound.2)

/-- The statement of an operation that binds nothing shows the signs of the operation. -/
theorem sketch_signed
    (accepted : settings.dialect.IsAccepted)
    (named : wellNamed.Throughout operation)
    (valid : operation.validate = .ok ())
    (unbound : operation.slots = 0) :
    operation.sketch.Signed settings operation.signs := by
  obtain ⟨noneInSelect, noneAssigned⟩ := Nat.add_eq_zero_iff.mp unbound
  have clauses := clauses_signed accepted named valid noneInSelect
  simp only [validate, Validation.andThen_ok_iff, Validation.require_ok_iff, Bool.or_eq_true,
    beq_iff_eq, List.isEmpty_iff] at valid
  obtain ⟨validTarget, validFilter, -, -, validSelected, assignsOnUpdate, validValues⟩ := valid
  simp only [selectSlots, Nat.add_eq_zero_iff] at noneInSelect
  obtain ⟨⟨⟨⟨noneInTarget, noneInFilter⟩, -⟩, -⟩, noneInSelected⟩ := noneInSelect
  have filters := Filter.sketchAfter_signed accepted " WHERE " (by decide) operation.filter
    named.filter validFilter noneInFilter
  have filtersApart : (Filter.sketchAfter " WHERE " operation.filter).Detached settings :=
    Filter.sketchAfter_detached (by decide) (by decide) _
  have declares : (Sketch.declaration operation.target).Signed settings [] :=
    Target.declaration_signed accepted named.target
  cases given : operation.kind with
  | select =>
      simp only [sketch, signs, given]
      exact .select accepted operation.distinct
        (operation.target.sketch_signed accepted named.target validTarget noneInTarget)
        clauses clauses_detached
        (Projection.option_signed accepted _ named.projection validSelected noneInSelected)
  | update =>
      simp only [sketch, signs, given]
      have assignments := assignments_signed accepted named.paths named.values validValues
        noneAssigned
      have separated : (Sketch.separated ", " (operation.values.map assignmentSketch)).Signed
          settings (operation.values.flatMap assignmentSigns) :=
        assignments.separated accepted (by decide) (by decide) (by decide)
      have behind : ((Sketch.words " SET ").append
          ((Sketch.separated ", " (operation.values.map assignmentSketch)).append
            (Filter.sketchAfter " WHERE " operation.filter))).Signed settings
          (operation.values.flatMap assignmentSigns ++ Filter.signsIfAny operation.filter) :=
        (separated.append filters filtersApart).after_words accepted (by decide)
      exact (declares.append behind (.after_words (by decide) (by decide) _)).after_words
        accepted (by decide)
  | delete =>
      simp only [sketch, signs, given]
      exact (declares.append filters filtersApart).after_words accepted (by decide)
  | insert =>
      simp only [sketch, signs, given]
      exact .words accepted (by decide)

end Operation

/-! ## Statements -/

/-- What a composed operation that binds nothing writes shows the signs of the operation. -/
theorem compose_shows
    (accepted : settings.dialect.IsAccepted)
    {before : Context}
    (isNamed : before.IsNamed)
    (named : wellNamed.Throughout operation)
    (unbound : operation.slots = 0) :
    (operation.compose .standard).Ensures settings before fun composed _ =>
      Shows settings.dialect.parameterMarker composed.text operation.signs := by
  intro composed after run
  have valid : operation.validate = .ok () := validate_of_compose operation composed after run
  have renders := compose_guided operation composed after run
  exact ((operation.sketch_signed accepted named valid unbound).run isNamed renders).2

namespace Configuration

/-- Every marker that a configuration accepts is told apart from words and from quotes. -/
theorem accepted_of_isMarker {marker : Char} (accepted : isMarker marker = true) :
    Accepted marker := by
  refine ⟨?_, ne_of_isMarker accepted (by decide)⟩
  obtain ⟨noName, noBlank, comma, point⟩ := unworded_of_isMarker accepted
  have opening : marker ≠ '(' := ne_of_isMarker accepted (by decide)
  have closing : marker ≠ ')' := ne_of_isMarker accepted (by decide)
  simp [isNeutral, noName, noBlank, comma, point, opening, closing]

theorem isAccepted_of_validate
    {config : Configuration}
    (valid : config.validate = .ok ()) :
    config.dialect.IsAccepted :=
  ⟨accepted_of_isMarker (isMarker_of_validate valid), rfl⟩

/-- A configuration also accepts every sign that a statement writes in front of names. -/
theorem isMarker_character (sign : Sign) : isMarker sign.character = true := by
  cases sign <;> decide

end Configuration

/-- A scan of a compiled statement that binds no parameter finds a reference exactly if the
marker is among the signs that the operation writes in front of names. -/
theorem Compiler.compile_signs_exact
    {config : Configuration}
    {compiler : Compiler}
    {catalog : Option Catalog}
    {operation : Operation}
    {statement : Statement}
    (created : Compiler.create config = .ok compiler)
    (dotted : ∀ found, catalog = some found → found.IsDotted)
    (named : wellNamed.Throughout operation)
    (unbound : operation.slots = 0)
    (compiled : (Compiler.compile { compiler with catalog } operation).1 = .ok statement) :
    (referencesIn statement.text config.parameterMarker ≠ [] ↔
        config.parameterMarker ∈ operation.signs.map Sign.character) ∧
      (config.parameterMarker ∉ ['=', '<', '>', '-', '{'] →
        referencesIn statement.text config.parameterMarker = []) := by
  obtain ⟨valid, rfl⟩ := create_eq_ok_iff.mp created
  obtain ⟨composed, after, run, rfl⟩ := exists_composed compiled
  have accepted : (settings ⟨config, config.dialect, .standard, catalog⟩).dialect.IsAccepted :=
    Configuration.isAccepted_of_validate valid
  have shown : Shows config.parameterMarker composed.text operation.signs :=
    compose_shows accepted (.root _ dotted) named unbound composed after run
  have exactly : referencesIn composed.text config.parameterMarker ≠ [] ↔
      config.parameterMarker ∈ operation.signs.map Sign.character := by
    simpa [referencesIn, referencesFrom] using shown [] separated_nil
  refine ⟨exactly, fun unwritten => by_contra fun found => unwritten ?_⟩
  obtain ⟨sign, -, isMarker⟩ := List.mem_map.mp (exactly.mp found)
  exact isMarker ▸ sign.character_mem

/-- The minus of a projected number passes for a marker: the statement has no parameter, and a
scan finds one. -/
theorem Compiler.negative_number_signs :
    let config : Configuration := { Configuration.standard .hibernate with parameterMarker := '-' }
    let operation : Operation :=
      { Operation.of .select (Target.named "order") with
        projection := some (.constant (.integer (-5))) }
    ∃ statement,
      ((Compiler.mk config config.dialect .standard none).compile operation).1 = .ok statement ∧
        statement.text = "SELECT -5 FROM order orde_0_0" ∧ statement.parameters.names = [] ∧
        referencesIn statement.text '-' ≠ [] := by
  intro config operation
  let compiler : Compiler := ⟨config, config.dialect, .standard, none⟩
  have shown : (compiler.compile operation).1.toOption.map
      (fun statement => (statement.text, statement.parameters.names)) =
        some ("SELECT -5 FROM order orde_0_0", []) := by
    decide +kernel
  obtain ⟨statement, compiled, written⟩ := Except.exists_ok_of_map_toOption shown
  obtain ⟨text, names⟩ := Prod.mk.inj written
  have created : Compiler.create config = .ok compiler :=
    create_eq_ok_iff.mpr ⟨by decide, rfl⟩
  have named : wellNamed.Throughout operation :=
    { target := ⟨⟨by decide, nofun⟩, trivial⟩
      filter := trivial
      aggregation := nofun
      sort := nofun
      projection := by
        rintro _ ⟨⟩
        exact nofun
      paths := nofun
      values := nofun }
  have dotted : ∀ found : Catalog, none = some found → found.IsDotted := nofun
  have exactly := compile_signs_exact created dotted named (by decide) compiled
  exact ⟨statement, compiled, text, names, exactly.1.mpr (by decide)⟩

end ObjectQuery
