import ObjectQuery.Compiler.Basic
import ObjectQuery.Proofs.Sketch.Statement
import ObjectQuery.Sample

/-!
# Parameters and the conventions of a dialect

Of all that a compiler settles, only the names of parameters, the form of references to them
and the escape character have a part in the parameters of a statement. Platform, spellings of
functions, aliases, catalog and the limit on nesting change the text, or whether there is a
statement at all, and leave every parameter as it is.
-/

namespace ObjectQuery

/-- Dialects that name parameters, refer to them and escape patterns alike. -/
structure Dialect.BindsLike (dialect dialect' : Dialect) : Prop where
  parameterPrefix : dialect.parameterPrefix = dialect'.parameterPrefix
  parameterMarker : dialect.parameterMarker = dialect'.parameterMarker
  escapeCharacter : dialect.escapeCharacter = dialect'.escapeCharacter

namespace Dialect.BindsLike

variable {dialect dialect' : Dialect} (alike : dialect.BindsLike dialect')

include alike

theorem numberedName (number : Nat) :
    dialect.numberedName number = dialect'.numberedName number := by
  rw [Dialect.numberedName, Dialect.numberedName, alike.parameterPrefix]

theorem looksLikeReference (text : String) :
    dialect.looksLikeReference text = dialect'.looksLikeReference text := by
  rw [Dialect.looksLikeReference, Dialect.looksLikeReference, alike.parameterMarker]

theorem matchPattern (text : String) (mode : MatchMode) (ignoreCase : Bool) :
    BuiltIn.matchPattern dialect text mode ignoreCase =
      BuiltIn.matchPattern dialect' text mode ignoreCase := by
  simp only [BuiltIn.matchPattern, Dialect.escapePattern, alike.escapeCharacter]

theorem extend (table : ParameterTable) (parameters : List Parameter) :
    table.extend dialect parameters = table.extend dialect' parameters := by
  induction parameters generalizing table with
  | nil => rfl
  | cons first rest inductionHypothesis =>
      rw [ParameterTable.extend, ParameterTable.extend, alike.numberedName, inductionHypothesis]

theorem filling (found : Filling) (hint : Option ValueType) :
    found.parameters dialect hint = found.parameters dialect' hint := by
  cases found with
  | words | call | constant | literal => rfl
  | pattern text mode ignoreCase =>
      rw [Filling.parameters, Filling.parameters, alike.matchPattern]
  | assigned text => rw [Filling.parameters, Filling.parameters, alike.looksLikeReference]

/-- What a run over a sketch binds is the same in both dialects. -/
theorem sketch (found : Sketch) (hint : Option ValueType) :
    found.parameters dialect hint = found.parameters dialect' hint := by
  induction found generalizing hint with
  | filling given => exact alike.filling given hint
  | mention | declaration => rfl
  | append first second firstHypothesis secondHypothesis =>
      rw [Sketch.parameters, Sketch.parameters, firstHypothesis, secondHypothesis]
  | expecting valueType inner inductionHypothesis => exact inductionHypothesis _
  | call kind distinct argument inductionHypothesis => exact inductionHypothesis _
  | select distinct source clauses selected sourceHypothesis clausesHypothesis
      selectedHypothesis =>
      rw [Sketch.parameters, Sketch.parameters, sourceHypothesis, clausesHypothesis,
        selectedHypothesis]
  | nested query inductionHypothesis => exact inductionHypothesis _

end Dialect.BindsLike

/-- The parameters of a composed operation are those of its sketch, after those before it. -/
theorem compose_parameters_eq
    {settings : Settings}
    {before : Context}
    (operation : Operation) :
    (operation.compose .standard).Ensures settings before fun _ after =>
      after.parameters = before.parameters.extend settings.dialect
        (operation.sketch.parameters settings.dialect before.hint) := by
  refine (compose_guided operation).weaken ?_
  rintro composed after ⟨rendering, -⟩
  exact rendering.parameters_eq

namespace Compiler

/-- Compilers whose dialects bind alike bind the same parameters for an operation, however
different the statements are that they write. -/
theorem compile_parameters_eq
    {compiler compiler' : Compiler}
    (standard : compiler.registry = Resolvers.standard)
    (standard' : compiler'.registry = Resolvers.standard)
    (alike : compiler.dialect.BindsLike compiler'.dialect)
    {operation : Operation}
    {statement statement' : Statement}
    (compiled : (compiler.compile operation).1 = .ok statement)
    (compiled' : (compiler'.compile operation).1 = .ok statement') :
    statement.parameters = statement'.parameters := by
  obtain ⟨composed, after, run, rfl⟩ := exists_composed compiled
  obtain ⟨composed', after', run', rfl⟩ := exists_composed compiled'
  rw [standard] at run
  rw [standard'] at run'
  have bound : after.parameters = ParameterTable.empty.extend compiler.dialect
      (operation.sketch.parameters compiler.dialect none) :=
    compose_parameters_eq operation composed after run
  have bound' : after'.parameters = ParameterTable.empty.extend compiler'.dialect
      (operation.sketch.parameters compiler'.dialect none) :=
    compose_parameters_eq operation composed' after' run'
  calc after.parameters
    _ = ParameterTable.empty.extend compiler'.dialect
          (operation.sketch.parameters compiler.dialect none) := bound.trans (alike.extend _ _)
    _ = after'.parameters := by rw [alike.sketch, bound']

end Compiler

/-- The orders of customers with a name like this one become stale. -/
def Sample.staleOrdersOf (name : String) : Operation :=
  let named : Filter :=
    (Filter.matching .contains (.path (Path.of "name" .string)) name).ignoringCase
  let customers : SubQuery :=
    (SubQuery.of (Target.named "customer") (.path identifier)).withFilter named
  { (Operation.of .update ((Target.named "order").withAlias "o")).set status
      (.constant (.string "stale")) with
    filter := some (Filter.inQuery (.path (Path.of "customerId" .integer)) customers) }

/-- Small letters as a host may spell them. -/
def Sample.lowerCase : FunctionSpelling :=
  ⟨"LCASE", .lower, .string, .scalar, "LCASE(" ++ FunctionSpelling.placeholder 0 ++ ")", none⟩

/-- Platform, spelling, aliases, catalog, its scope and the limit on nesting all differ here. -/
theorem Compiler.staleOrders_parameters_eq :
    let compiler : Compiler :=
      ⟨.standard .hibernate, .standard .hibernate, .standard, none⟩
    let compiler' : Compiler :=
      ⟨⟨.eclipseLink, .default, "p", ':', '!', false, 2, "archive"⟩,
        ⟨.eclipseLink, SpellingRegistry.standard.register .eclipseLink Sample.lowerCase, '!', ':',
          "p"⟩,
        .standard, some (.fixed Sample.catalog)⟩
    let operation := Sample.staleOrdersOf "50% Off"
    ∃ statement statement',
      (compiler.compile operation).1 = .ok statement ∧
        (compiler'.compile operation).1 = .ok statement' ∧
        statement.text = "UPDATE order o SET o.status=:p0001 WHERE o.customerId IN " ++
          "(SELECT cust_1_0.id FROM customer cust_1_0 WHERE " ++
          "lower(cust_1_0.name) LIKE :p0002 ESCAPE '!')" ∧
        statement'.text = "UPDATE ArchivedOrder o SET o.status=:p0001 WHERE o.customerId IN " ++
          "(SELECT id FROM Customer WHERE LCASE(name) LIKE :p0002 ESCAPE '!')" ∧
        statement.parameters.values.map Value.toText = ["stale", "%50!% off%"] ∧
        statement.parameters = statement'.parameters := by
  intro compiler compiler' operation
  have written : (compiler.compile operation).1.toOption.map
      (fun statement => (statement.text, statement.parameters.values.map Value.toText)) =
        some ("UPDATE order o SET o.status=:p0001 WHERE o.customerId IN " ++
          "(SELECT cust_1_0.id FROM customer cust_1_0 WHERE " ++
          "lower(cust_1_0.name) LIKE :p0002 ESCAPE '!')", ["stale", "%50!% off%"]) := by
    decide +kernel
  have written' : (compiler'.compile operation).1.toOption.map (fun statement => statement.text) =
      some ("UPDATE ArchivedOrder o SET o.status=:p0001 WHERE o.customerId IN " ++
        "(SELECT id FROM Customer WHERE LCASE(name) LIKE :p0002 ESCAPE '!')") := by
    decide +kernel
  have alike : compiler.dialect.BindsLike compiler'.dialect := ⟨rfl, rfl, rfl⟩
  have bound := @compile_parameters_eq compiler compiler' rfl rfl alike operation
  obtain ⟨statement, compiled, seen⟩ := Except.exists_ok_of_map_toOption written
  obtain ⟨statement', compiled', text'⟩ := Except.exists_ok_of_map_toOption written'
  obtain ⟨text, values⟩ := Prod.mk.inj seen
  exact ⟨statement, statement', compiled, compiled', text, text', values,
    bound compiled compiled'⟩

end ObjectQuery
