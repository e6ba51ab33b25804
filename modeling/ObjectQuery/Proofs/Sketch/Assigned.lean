import Mathlib.Data.List.Forall2
import Mathlib.Data.List.Nodup
import ObjectQuery.Compiler.Basic
import ObjectQuery.Proofs.Sketch.Effect
import ObjectQuery.Proofs.Sketch.Statement
import ObjectQuery.Sample

/-!
# Strings that are assigned

An assigned string is bound to a parameter of its own, unless it starts with the marker of
references and goes on: then it is written as it stands, whatever it goes on with. The names
of the parameters that are made up for the statement are known from the operation, so it is
known, too, when a written string is no reference at all, or one that reads the parameter of
another value.
-/

namespace ObjectQuery

open BuiltIn Resolution

/-! ## Assigned strings -/

/-- The string that an assignment gives its property, if it gives it a string. -/
def Expression.string? : Expression → Option String
  | .constant (.string text) => some text
  | _ => none

theorem Expression.eq_of_string?
    {value : Expression}
    {text : String}
    (given : value.string? = some text) :
    value = .constant (.string text) := by
  unfold string? at given
  split at given
  · cases given
    rfl
  · simp at given

namespace Operation

/-- The assigned strings that are written as they stand. -/
def copiedStrings (operation : Operation) (dialect : Dialect) : List String :=
  (operation.values.filterMap fun assignment => assignment.2.string?).filter
    dialect.looksLikeReference

/-- How many parameters are made up for the statement of an operation. -/
def parameterCount (operation : Operation) (dialect : Dialect) : Nat :=
  (operation.sketch.parameters dialect none).length

end Operation

namespace Dialect

/-- A text is a reference to a name that is not among some others. -/
def RefersOutside (dialect : Dialect) (names : List String) (text : String) : Prop :=
  ∃ name, Text.isIdentifier name = true ∧ text = dialect.referenceTo name ∧ name ∉ names

/-- A column and what is assigned to it, as an assignment is written: the property, after an
alias or alone, and of a string the text itself or the reference to a parameter that it is
bound to. -/
structure Assigns
    (dialect : Dialect)
    (table : ParameterTable)
    (assignment : Path × Expression)
    (written : String × String) : Prop where
  column :
    written.1 = assignment.1.fullName ∨
      ∃ aliasName, written.1 = aliasName ++ "." ++ assignment.1.fullName
  value : ∀ text ∈ assignment.2.string?,
    if dialect.looksLikeReference text then
      written.2 = text
    else
      ∃ name,
        written.2 = dialect.referenceTo name ∧
          (name, .of (.string text)
            (bindingType (some assignment.1.valueType) (.string text))) ∈ table.entries

/-- A string is assigned by one reference, which reads the string if the statement binds it. -/
def ReadsOwn
    (dialect : Dialect)
    (table : ParameterTable)
    (assignment : Path × Expression)
    (written : String × String) : Prop :=
  ∀ text ∈ assignment.2.string?,
    ∃ name,
      Text.isIdentifier name = true ∧
        written.2 = dialect.referenceTo name ∧
        ∀ parameter, (name, parameter) ∈ table.entries → parameter.value = .string text

end Dialect

/-- Every string that is written as it stands is a reference to a name that is not made up for
the statement. -/
def Operation.CopiesReferences (operation : Operation) (dialect : Dialect) : Prop :=
  ∀ text ∈ operation.copiedStrings dialect,
    dialect.RefersOutside (dialect.numberedNames 0 (operation.parameterCount dialect)) text

/-- The parts of the text of an update. -/
structure UpdateText where
  declaration : String
  assignments : List (String × String)
  condition : String

/-- The text that the parts make up. -/
def UpdateText.text (parts : UpdateText) : String :=
  "UPDATE " ++ parts.declaration ++ " SET " ++
    ", ".intercalate (parts.assignments.map fun part => part.1 ++ "=" ++ part.2) ++
    parts.condition

/-- The parts that are written for an update: its target, its assignments and its condition. -/
structure UpdateText.WrittenFor
    (parts : UpdateText)
    (settings : Settings)
    (operation : Operation)
    (before after : Context) : Prop where
  target : ∃ declared,
    (Sketch.declaration operation.target).Renders settings before parts.declaration declared
  assignments :
    List.Forall₂ (settings.dialect.Assigns after.parameters) operation.values parts.assignments
  condition : ∃ assigned,
    (Filter.sketchAfter " WHERE " operation.filter).Renders settings assigned parts.condition after

/-! ## Runs over assignments -/

namespace Sketch

variable
  {settings : Settings}
  {before after : Context}
  {sketch : Sketch}
  {text : String}

/-- Parameters are never given up by a run over a sketch. -/
theorem Renders.grows (renders : sketch.Renders settings before text after) :
    before.parameters.entries <+: after.parameters.entries := by
  obtain ⟨rendering, -⟩ := renders
  rw [rendering.parameters_eq, ParameterTable.entries_extend]
  exact List.prefix_append _ _

theorem RendersEach.grows
    {sketches : List Sketch}
    {texts : List String}
    (each : RendersEach settings sketches before texts after) :
    before.parameters.entries <+: after.parameters.entries := by
  induction each with
  | nil => exact List.prefix_rfl
  | cons firsts _ inductionHypothesis => exact firsts.grows.trans inductionHypothesis

variable {table : ParameterTable}

theorem Renders.assigns
    {assignment : Path × Expression}
    (renders : (Operation.assignmentSketch assignment).Renders settings before text after)
    (kept : after.parameters.entries <+: table.entries) :
    ∃ written : String × String,
      text = written.1 ++ "=" ++ written.2 ∧
        settings.dialect.Assigns table assignment written := by
  obtain ⟨column, _, _, rendersColumn, rendersBehind, rfl⟩ := renders.exists_append
  obtain ⟨_, _, value, rendersSign, rendersValue, rfl⟩ := rendersBehind.exists_append
  obtain ⟨rfl, rfl⟩ := rendersSign.of_words
  refine ⟨(column, value), (String.append_assoc ..).symm, ?_, fun text given => ?_⟩
  · rw [rendersColumn.of_mention.1, text_property]
    split
    · next aliasName found => exact .inr ⟨aliasName, rfl⟩
    · exact .inl rfl
  · obtain ⟨inner, rendersString, rfl⟩ := rendersValue.exists_expecting
    rw [Expression.eq_of_string? given, Expression.assignedSketch] at rendersString
    have written := rendersString.of_filling
    cases looks : settings.dialect.looksLikeReference text with
    | true =>
        rw [WriteDraft.assigned_write_copied looks] at written
        cases written
        rfl
    | false =>
        rw [WriteDraft.assigned_write_bound looks] at written
        obtain ⟨rfl, rfl⟩ := newReference_allocates _ _ _ _ written
        refine ⟨_, rfl, kept.subset ?_⟩
        simp [Context.allocate, ParameterTable.extend, ParameterTable.push]

/-- The texts of some assignments, each a column and a value. -/
theorem RendersEach.assigns
    {values : List (Path × Expression)}
    {texts : List String}
    (each : RendersEach settings (values.map Operation.assignmentSketch) before texts after)
    (kept : after.parameters.entries <+: table.entries) :
    ∃ written : List (String × String),
      texts = written.map (fun part => part.1 ++ "=" ++ part.2) ∧
        List.Forall₂ (settings.dialect.Assigns table) values written := by
  induction values generalizing before texts with
  | nil =>
      cases each
      exact ⟨[], rfl, .nil⟩
  | cons assignment rest inductionHypothesis =>
      cases each with
      | cons firsts rests =>
          obtain ⟨first, rfl, assigns⟩ := firsts.assigns (rests.grows.trans kept)
          obtain ⟨written, rfl, assignsRest⟩ := inductionHypothesis rests
          exact ⟨first :: written, rfl, .cons assigns assignsRest⟩

end Sketch

theorem Operation.exists_updateText
    {settings : Settings}
    {before after : Context}
    {operation : Operation}
    {text : String}
    (isUpdate : operation.kind = .update)
    (renders : operation.sketch.Renders settings before text after) :
    ∃ parts : UpdateText,
      text = parts.text ∧ parts.WrittenFor settings operation before after := by
  simp only [sketch, isUpdate] at renders
  obtain ⟨_, _, _, rendersUpdate, rendersAfterUpdate, rfl⟩ := renders.exists_append
  obtain ⟨rfl, rfl⟩ := rendersUpdate.of_words
  obtain ⟨declaration, _, _, rendersTarget, rendersBehind, rfl⟩ := rendersAfterUpdate.exists_append
  obtain ⟨_, _, _, rendersSet, rendersAfterSet, rfl⟩ := rendersBehind.exists_append
  obtain ⟨rfl, rfl⟩ := rendersSet.of_words
  obtain ⟨_, _, condition, rendersValues, rendersCondition, rfl⟩ := rendersAfterSet.exists_append
  obtain ⟨texts, each, rfl⟩ := Sketch.RendersEach.of_separated rendersValues
  obtain ⟨written, rfl, assigns⟩ := each.assigns rendersCondition.grows
  refine ⟨⟨declaration, written, condition⟩, ?_, ⟨_, rendersTarget⟩, assigns, ⟨_, rendersCondition⟩⟩
  simp only [UpdateText.text, String.append_assoc]

/-! ## References to own values -/

/-- Where strings that are written as they stand refer elsewhere, each string reads its own
value. -/
theorem Dialect.Assigns.readsOwn
    {dialect : Dialect}
    {table : ParameterTable}
    {count : Nat}
    {assignment : Path × Expression}
    {written : String × String}
    (assigns : dialect.Assigns table assignment written)
    (identifier : Text.isIdentifier dialect.parameterPrefix = true)
    (names : table.names = dialect.numberedNames 0 count)
    (refers : ∀ text ∈ assignment.2.string?, dialect.looksLikeReference text = true →
      dialect.RefersOutside table.names text) :
    dialect.ReadsOwn table assignment written := by
  intro text given
  have written := assigns.value text given
  split at written
  · next looks =>
      obtain ⟨name, isName, refersTo, outside⟩ := refers text given looks
      refine ⟨name, isName, written.trans refersTo, fun parameter bound => absurd ?_ outside⟩
      exact List.mem_map_of_mem (f := Prod.fst) bound
  · obtain ⟨name, refersTo, bound⟩ := written
    have made : name ∈ dialect.numberedNames 0 count :=
      names ▸ List.mem_map_of_mem (f := Prod.fst) bound
    obtain ⟨number, -, rfl⟩ := List.mem_map.mp made
    refine ⟨_, isIdentifier_numberedName identifier number, refersTo, fun parameter found => ?_⟩
    have distinct : table.names.Nodup := names ▸ dialect.nodup_numberedNames 0 count
    have same := List.inj_on_of_nodup_map distinct found bound rfl
    rw [(Prod.mk.inj same).2]
    rfl

namespace Compiler

/-- A compiled update assigns each string by the string itself where it looks like a reference,
and by a reference to its own parameter elsewhere. The strings that are written as they stand
are references to names that the statement does not bind exactly if the operation copies only
such references; then each string is assigned by one reference that reads no other value. -/
theorem compile_update_assigned
    {config : Configuration}
    {compiler : Compiler}
    {catalog : Option Catalog}
    {operation : Operation}
    {statement : Statement}
    (created : Compiler.create config = .ok compiler)
    (isUpdate : operation.kind = .update)
    (compiled : (Compiler.compile { compiler with catalog } operation).1 = .ok statement) :
    ∃ (parts : UpdateText) (after : Context),
      statement.text = parts.text ∧
        statement.parameters = after.parameters ∧
        parts.WrittenFor compiler.settings operation
          (Compiler.context { compiler with catalog } operation) after ∧
        ((∀ text ∈ operation.copiedStrings config.dialect,
            config.dialect.RefersOutside statement.parameters.names text) ↔
          operation.CopiesReferences config.dialect) ∧
        (operation.CopiesReferences config.dialect →
          List.Forall₂ (config.dialect.ReadsOwn statement.parameters) operation.values
            parts.assignments) := by
  obtain ⟨valid, rfl⟩ := create_eq_ok_iff.mp created
  obtain ⟨composed, after, run, rfl⟩ := exists_composed compiled
  have renders := compose_guided operation composed after run
  obtain ⟨parts, text, written⟩ := Operation.exists_updateText isUpdate renders
  have names : after.parameters.names =
      config.dialect.numberedNames 0 (operation.parameterCount config.dialect) := by
    obtain ⟨rendering, -⟩ := renders
    rw [rendering.parameters_eq, ParameterTable.names_extend]
    rfl
  have copies : (∀ text ∈ operation.copiedStrings config.dialect,
      config.dialect.RefersOutside after.parameters.names text) ↔
        operation.CopiesReferences config.dialect := by
    rw [names, Operation.CopiesReferences]
  refine ⟨parts, after, text, rfl, written, copies, fun copiesReferences => ?_⟩
  obtain ⟨lengths, each⟩ := List.forall₂_iff_zip.mp written.assignments
  refine List.forall₂_iff_zip.mpr ⟨lengths, fun {assignment part} paired => ?_⟩
  refine (each paired).readsOwn (Configuration.isIdentifier_of_validate valid) names ?_
  intro text given looks
  refine copies.mpr copiesReferences text (List.mem_filter.mpr ⟨?_, looks⟩)
  exact List.mem_filterMap.mpr ⟨assignment, (List.of_mem_zip paired).1, given⟩

/-- An update that copies two strings: one reads the status that is bound, the other goes on
with a condition of its own. -/
theorem status_update_assigned :
    let config := Configuration.standard .hibernate
    let operation :=
      (((Operation.of .update (Target.named "order")).set Sample.status
        (.constant (.string "open"))).set (Path.of "note" .string)
        (.constant (.string ":p0001"))).set (Path.of "reason" .string)
        (.constant (.string ":x WHERE (1=1)"))
    let compiler : Compiler := ⟨config, config.dialect, Resolvers.standard, none⟩
    ∃ statement,
      Compiler.create config = .ok compiler ∧
        (compiler.compile operation).1 = .ok statement ∧
        statement.text =
          "UPDATE order orde_0_0 SET orde_0_0.status=:p0001, orde_0_0.note=:p0001, " ++
            "orde_0_0.reason=:x WHERE (1=1)" ∧
        statement.parameters.names = ["p0001"] ∧
        ¬ ∀ text ∈ operation.copiedStrings config.dialect,
          config.dialect.RefersOutside statement.parameters.names text := by
  intro config operation compiler
  have shown : (compiler.compile operation).1.toOption.map
      (fun statement => (statement.text, statement.parameters.names)) =
        some ("UPDATE order orde_0_0 SET orde_0_0.status=:p0001, orde_0_0.note=:p0001, " ++
          "orde_0_0.reason=:x WHERE (1=1)", ["p0001"]) := by
    decide +kernel
  have created : Compiler.create config = .ok compiler :=
    create_eq_ok_iff.mpr ⟨by decide +kernel, rfl⟩
  obtain ⟨statement, compiled, seen⟩ := Except.exists_ok_of_map_toOption shown
  obtain ⟨text, names⟩ := Prod.mk.inj seen
  obtain ⟨-, -, -, -, -, copies, -⟩ := compile_update_assigned created rfl compiled
  refine ⟨statement, created, compiled, text, names, fun refers => ?_⟩
  have copied : ":x WHERE (1=1)" ∈ operation.copiedStrings config.dialect := by decide +kernel
  obtain ⟨name, isName, written, -⟩ := copies.mp refers _ copied
  obtain rfl : "x WHERE (1=1)" = name := by
    simpa [Dialect.referenceTo] using
      congrArg (fun text => String.ofList (String.toList text).tail) written
  revert isName
  decide

end Compiler
end ObjectQuery
