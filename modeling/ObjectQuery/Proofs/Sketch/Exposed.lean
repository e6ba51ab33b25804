import ObjectQuery.Proofs.Payload.BuiltIn
import ObjectQuery.Proofs.Sketch.BuiltIn
import ObjectQuery.Proofs.Sketch.Effect
import ObjectQuery.Sample

/-!
# Constants exposed to the expected type

The type that is expected where a node begins reaches every constant of the node that is
bound before something inside expects another type: arguments of functions, left operands,
and whatever a sub-query binds outside its own right operands. The text does not depend on
the type, and the parameters do exactly where an exposed constant has a type of its own that
differs from the expected one.
-/

namespace ObjectQuery

open BuiltIn Resolution

/-! ## Exposed constants -/

/-- The values that are bound for a constant. -/
def Value.bound : Value → List Value
  | .null => []
  | .list items => items
  | value => [value]

theorem Value.parameters_eq_map (hint : Option ValueType) (value : Value) :
    value.parameters hint = value.bound.map fun item => .of item (bindingType hint item) := by
  cases value <;> rfl

/-- The values that a filling binds with whichever type is expected. -/
def Filling.exposed (dialect : Dialect) : Filling → List Value
  | .words _ | .call _ _ | .literal _ | .pattern _ _ _ => []
  | .constant value => value.bound
  | .assigned text => if dialect.looksLikeReference text then [] else [.string text]

/-- The values that a sketch binds with the type that is expected where it begins. -/
def Sketch.exposed (dialect : Dialect) : Sketch → List Value
  | .filling given => given.exposed dialect
  | .mention _ | .declaration _ | .expecting _ _ => []
  | .append first second => first.exposed dialect ++ second.exposed dialect
  | .call _ _ argument => argument.exposed dialect
  | .select _ source clauses selected =>
      source.exposed dialect ++ (clauses.exposed dialect ++ selected.exposed dialect)
  | .nested query => query.exposed dialect

/-- A value is bound with its own type even where a type is expected. -/
def Value.KeepsType (hint : Option ValueType) (value : Value) : Prop :=
  bindingType hint value = value.valueType

namespace Value

variable (hint : Option ValueType)

theorem parameter_eq_iff (value : Value) :
    Parameter.of value (bindingType hint value) = Parameter.of value (bindingType none value) ↔
      value.KeepsType hint := by
  constructor
  · intro equal
    exact congrArg Parameter.valueType equal
  · intro keeps
    rw [keeps]
    rfl

theorem parameters_eq_iff (value : Value) :
    value.parameters hint = value.parameters none ↔
      ∀ item ∈ value.bound, item.KeepsType hint := by
  rw [parameters_eq_map, parameters_eq_map, List.map_inj_left]
  simp only [parameter_eq_iff]

end Value

namespace Filling

variable (dialect : Dialect) (hint : Option ValueType)

theorem length_parameters (filling : Filling) :
    (filling.parameters dialect hint).length = (filling.parameters dialect none).length := by
  cases filling with
  | constant value => simp [parameters, Value.parameters_eq_map]
  | assigned text =>
      simp only [parameters]
      split <;> rfl
  | _ => rfl

theorem parameters_eq_iff (filling : Filling) :
    filling.parameters dialect hint = filling.parameters dialect none ↔
      ∀ value ∈ filling.exposed dialect, value.KeepsType hint := by
  cases filling with
  | constant value => exact value.parameters_eq_iff hint
  | assigned text =>
      simp only [parameters, exposed]
      split
      · simp
      · exact (Value.string text).parameters_eq_iff hint
  | _ => simp [parameters, exposed]

end Filling

namespace Sketch

variable (dialect : Dialect) (hint : Option ValueType)

/-- How many parameters there are does not depend on what is expected. -/
theorem length_parameters (sketch : Sketch) :
    (sketch.parameters dialect hint).length = (sketch.parameters dialect none).length := by
  induction sketch with
  | filling filling => exact filling.length_parameters dialect hint
  | mention | declaration | expecting => rfl
  | append first second firstHypothesis secondHypothesis =>
      simp only [parameters, List.length_append, firstHypothesis, secondHypothesis]
  | call kind distinct argument inductionHypothesis => exact inductionHypothesis
  | select distinct source clauses selected sourceHypothesis clausesHypothesis
      selectedHypothesis =>
      simp only [parameters, List.length_append, sourceHypothesis, clausesHypothesis,
        selectedHypothesis]
  | nested query inductionHypothesis => exact inductionHypothesis

/-- Sketches in a row keep their parameters exactly if each of them does. -/
theorem append_parameters_eq_iff (first : Sketch) {rest rest' : List Parameter} :
    first.parameters dialect hint ++ rest = first.parameters dialect none ++ rest' ↔
      first.parameters dialect hint = first.parameters dialect none ∧ rest = rest' :=
  ⟨fun equal => List.append_inj equal (first.length_parameters dialect hint),
    fun ⟨firsts, rests⟩ => by rw [firsts, rests]⟩

/-- The parameters are those without an expected type exactly if every exposed value keeps its
own type. -/
theorem parameters_eq_iff (sketch : Sketch) :
    sketch.parameters dialect hint = sketch.parameters dialect none ↔
      ∀ value ∈ sketch.exposed dialect, value.KeepsType hint := by
  induction sketch with
  | filling filling => exact filling.parameters_eq_iff dialect hint
  | mention | declaration | expecting => simp [parameters, exposed]
  | append first second firstHypothesis secondHypothesis =>
      simp only [parameters, exposed, append_parameters_eq_iff, firstHypothesis,
        secondHypothesis, List.forall_mem_append]
  | call kind distinct argument inductionHypothesis => exact inductionHypothesis
  | select distinct source clauses selected sourceHypothesis clausesHypothesis
      selectedHypothesis =>
      simp only [parameters, exposed, append_parameters_eq_iff, sourceHypothesis,
        clausesHypothesis, selectedHypothesis, List.forall_mem_append]
  | nested query inductionHypothesis => exact inductionHypothesis

end Sketch

/-! ## Runs under an expected type -/

namespace Resolvers

variable (settings : Settings) (context : Context) (node : Expression)

/-- The text of a node, or the error, is the same whatever is expected. -/
theorem fragmentOf_withHint_eq (expected : ValueType) :
    (withHint expected (standard.fragmentOf node) settings context).1 =
      (standard.fragmentOf node settings { context with hint := none }).1 := by
  have toMask : ∀ hint : Option ValueType,
      AlikeEnds Eq (standard.fragmentOf node settings { context with hint })
        (standard.fragmentOf node.masked settings context) := fun hint =>
    fragment_masked node (answer_lockstep node) _ _
      ((Context.Alike.refl context).withHint hint context.hint)
  exact (toMask (some expected)).outcome_eq.trans (toMask none).outcome_eq.symm

/-- The parameters that a node allocates are those of its sketch. -/
theorem fragmentOf_parameters :
    (standard.fragmentOf node).Ensures settings context fun _ after =>
      after.parameters = context.parameters.extend settings.dialect
        (node.sketch.parameters settings.dialect context.hint) :=
  Ensures.weaken (Sketch.guides_fragment (answer_guided node) context)
    fun _ _ ⟨rendering, _⟩ => rendering.parameters_eq

/-- Under an expected type a node has the same text as without one. Its parameters are those of
its sketch with that type, and the same as without it exactly if each exposed value keeps its
own type. -/
theorem fragmentOf_withHint (expected : ValueType) :
    let hinted := withHint expected (standard.fragmentOf node) settings context
    let plain := standard.fragmentOf node settings { context with hint := none }
    hinted.1 = plain.1 ∧
      ∀ text, plain.1 = .ok text →
        hinted.2.parameters = context.parameters.extend settings.dialect
            (node.sketch.parameters settings.dialect (some expected)) ∧
          plain.2.parameters = context.parameters.extend settings.dialect
            (node.sketch.parameters settings.dialect none) ∧
          (hinted.2.parameters = plain.2.parameters ↔
            ∀ value ∈ node.sketch.exposed settings.dialect, value.KeepsType (some expected)) := by
  intro hinted plain
  have outcomes : hinted.1 = plain.1 := fragmentOf_withHint_eq settings context node expected
  refine ⟨outcomes, fun text succeeds => ?_⟩
  have hintedAllocates : (withHint expected (standard.fragmentOf node)).Ensures settings context
      fun _ after => after.parameters = context.parameters.extend settings.dialect
        (node.sketch.parameters settings.dialect (some expected)) :=
    .withHint (fragmentOf_parameters settings { context with hint := some expected } node)
  have hintedParameters := hintedAllocates text hinted.2 (Prod.ext (outcomes.trans succeeds) rfl)
  have plainParameters := fragmentOf_parameters settings _ node text plain.2 (Prod.ext succeeds rfl)
  refine ⟨hintedParameters, plainParameters, ?_⟩
  rw [hintedParameters, plainParameters, ParameterTable.extend_inj,
    Sketch.parameters_eq_iff settings.dialect (some expected) node.sketch]

/-- Where a date is expected of the days of open orders, the status is bound as a date. -/
theorem openDays_status_date :
    let settings : Settings := ⟨.standard .hibernate, "default", standardDepthLimit⟩
    let context := Context.root .auto none
    let openDays : Expression :=
      .subQuery ((SubQuery.of (Target.named "order") (.path Sample.placedOn)).withFilter
        (.compare (.constant (.string "open")) .equal (.path Sample.status)))
    let hinted := withHint .date (standard.fragmentOf openDays) settings context
    let plain := standard.fragmentOf openDays settings { context with hint := none }
    plain.1.toOption =
        some "SELECT orde_1_0.placedOn FROM order orde_1_0 WHERE :p0001=orde_1_0.status" ∧
      hinted.1 = plain.1 ∧
      hinted.2.parameters.entries.map (fun entry => entry.2.valueType) = [.date] ∧
      plain.2.parameters.entries.map (fun entry => entry.2.valueType) = [.string] ∧
      hinted.2.parameters ≠ plain.2.parameters := by
  intro settings context openDays hinted plain
  have text : plain.1.toOption =
      some "SELECT orde_1_0.placedOn FROM order orde_1_0 WHERE :p0001=orde_1_0.status" := by
    decide +kernel
  obtain ⟨outcomes, parameters⟩ := fragmentOf_withHint settings context openDays .date
  obtain ⟨hintedParameters, plainParameters, same⟩ :=
    parameters _ (Except.eq_ok_of_toOption text)
  have exposed : openDays.sketch.exposed settings.dialect = [.string "open"] := by rfl
  refine ⟨text, outcomes, ?_, ?_, ?_⟩
  · rw [hintedParameters]
    decide +kernel
  · rw [plainParameters]
    decide +kernel
  · rw [Ne, same, exposed]
    simp [Value.KeepsType, bindingType, Value.valueType]

end Resolvers
end ObjectQuery
