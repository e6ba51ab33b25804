import ObjectQuery.Proofs.Parameters.Ledger
import ObjectQuery.Proofs.Sketch.Basic

/-!
# Parameters of a sketch

The constants of a sketch and the types that are expected of them settle which parameters a
run allocates: nothing of the context but the type that is expected at the start plays a
part. The names are those with the next numbers.
-/

namespace ObjectQuery

/-! ## Tables that grow -/

namespace ParameterTable

/-- The table with more parameters, whose names are numbered on. -/
def extend (dialect : Dialect) (table : ParameterTable) : List Parameter → ParameterTable
  | [] => table
  | first :: rest => extend dialect (table.push (dialect.numberedName (table.size + 1)) first) rest

variable (dialect : Dialect) (table : ParameterTable)

theorem extend_append (parameters parameters' : List Parameter) :
    table.extend dialect (parameters ++ parameters') =
      (table.extend dialect parameters).extend dialect parameters' := by
  induction parameters generalizing table with
  | nil => rfl
  | cons first rest inductionHypothesis => exact inductionHypothesis _

theorem entries_extend (parameters : List Parameter) :
    (table.extend dialect parameters).entries =
      table.entries ++ (dialect.numberedNames table.size parameters.length).zip parameters := by
  induction parameters generalizing table with
  | nil => simp [extend]
  | cons first rest inductionHypothesis =>
      rw [extend, inductionHypothesis, size_push, List.length_cons, Nat.add_comm rest.length,
        Dialect.numberedNames_add]
      simp [push, Dialect.numberedNames]

theorem names_extend (parameters : List Parameter) :
    (table.extend dialect parameters).names =
      table.names ++ dialect.numberedNames table.size parameters.length := by
  simp [names, entries_extend, List.map_fst_zip, Dialect.numberedNames]

/-- Tables that grow from one table are equal only with the same parameters. -/
theorem extend_inj {parameters parameters' : List Parameter} :
    table.extend dialect parameters = table.extend dialect parameters' ↔
      parameters = parameters' := by
  refine ⟨fun equal => ?_, fun equal => by rw [equal]⟩
  have values := congrArg (fun grown => (ParameterTable.entries grown).map Prod.snd) equal
  simpa [entries_extend, List.map_snd_zip, Dialect.numberedNames] using values

end ParameterTable

/-! ## Parameters of fillings -/

open BuiltIn Resolution

/-- The parameters that a constant is bound to where a type is expected or not. -/
def Value.parameters (hint : Option ValueType) : Value → List Parameter
  | .null => []
  | .list items => items.map fun item => .of item (bindingType hint item)
  | value => [.of value (bindingType hint value)]

/-- The parameters that a filling is bound to. -/
def Filling.parameters (dialect : Dialect) (hint : Option ValueType) : Filling → List Parameter
  | .words _ | .call _ _ | .literal _ => []
  | .constant value => value.parameters hint
  | .pattern text mode ignoreCase =>
      [.of (.string (matchPattern dialect text mode ignoreCase)) .string]
  | .assigned text =>
      if dialect.looksLikeReference text then [] else (Value.string text).parameters hint

/-- The parameters that a run over a sketch allocates, in order. -/
def Sketch.parameters (dialect : Dialect) (hint : Option ValueType) : Sketch → List Parameter
  | .filling given => given.parameters dialect hint
  | .mention _ | .declaration _ => []
  | .append first second => first.parameters dialect hint ++ second.parameters dialect hint
  | .expecting valueType inner => inner.parameters dialect (some valueType)
  | .call _ _ argument => argument.parameters dialect hint
  | .select _ source clauses selected =>
      source.parameters dialect hint ++
        (clauses.parameters dialect hint ++ selected.parameters dialect hint)
  | .nested query => query.parameters dialect hint

/-- The context with more parameters. -/
def Context.allocate (context : Context) (dialect : Dialect) (parameters : List Parameter) :
    Context :=
  { context with parameters := context.parameters.extend dialect parameters }

variable {settings : Settings} {before : Context}

theorem newReference_allocates (value : Value) (valueType : ValueType) :
    (newReference value valueType).Ensures settings before fun text after =>
      text = settings.dialect.referenceTo
          (settings.dialect.numberedName (before.parameters.size + 1)) ∧
        after = before.allocate settings.dialect [.of value valueType] := by
  rintro text after ⟨rfl, rfl⟩
  exact ⟨rfl, rfl⟩

theorem bindItems_allocates (items : List Value) :
    (bindItems items).Ensures settings before fun _ after =>
      after = before.allocate settings.dialect
        (items.map fun item => .of item (bindingType before.hint item)) := by
  induction items generalizing before with
  | nil => exact .pure rfl
  | cons item rest inductionHypothesis =>
      have first : (bindValue item).Ensures settings before _ :=
        .bindContext (newReference_allocates item (bindingType before.hint item))
      refine first.bind ?_
      rintro _ _ ⟨-, rfl⟩
      refine inductionHypothesis.bind ?_
      rintro _ _ rfl
      exact .pure rfl

theorem constant_allocates (value : Value) :
    (constant value).Ensures settings before fun _ after =>
      after = before.allocate settings.dialect (value.parameters before.hint) := by
  cases value with
  | null => exact .pure rfl
  | list items =>
      refine (bindItems_allocates items).bind ?_
      rintro _ _ rfl
      exact .pure rfl
  | _ => exact Ensures.weaken (newReference_allocates _ _) fun _ _ allocated => allocated.2

/-- A filling does nothing to the context but to allocate its parameters. -/
theorem Filling.write_allocates (filling : Filling) :
    filling.write.Ensures settings before fun _ after =>
      after = before.allocate settings.dialect
        (filling.parameters settings.dialect before.hint) := by
  cases filling with
  | words text => exact .pure rfl
  | call kind distinct => exact .bindDialect (.ofExcept fun _ _ => rfl)
  | constant value => exact constant_allocates value
  | literal value => exact .bindDialect (.ofExcept fun _ _ => rfl)
  | pattern text mode ignoreCase =>
      refine .bindDialect ((newReference_allocates _ _).bind ?_)
      rintro _ _ ⟨-, rfl⟩
      exact .pure rfl
  | assigned text =>
      refine .bindDialect ?_
      cases looks : settings.dialect.looksLikeReference text with
      | true =>
          refine .pure ?_
          simp [parameters, looks, Context.allocate, ParameterTable.extend]
      | false => simpa [parameters, looks] using constant_allocates (.string text)

end ObjectQuery
