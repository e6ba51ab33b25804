import ObjectQuery.Dialect
import ObjectQuery.Operation.Basic

/-!
# Conditions on operations

A condition on operations often asks the same of every path, every target and every
projection in it, however deep they lie. Such a condition is given by what it asks of one
path, one target without its joins, and one projection.

A string that is assigned and looks like a reference is written as it stands. Most of what
is said of all operations is said of those that assign no such string.
-/

namespace ObjectQuery

/-- What is asked of each path, each target and each projection. -/
structure NodeCheck where
  ofPath : Path → Prop
  ofTarget : (name : String) → (entity : Option String) → Prop
  ofProjection : Projection → Prop

namespace NodeCheck

mutual

/-- The check holds at every node of an expression. -/
def expression (check : NodeCheck) : Expression → Prop
  | .path found => check.ofPath found
  | .constant _ | .custom _ => True
  | .function call => function check call
  | .subQuery query => subQuery check query
  | .filter condition => filter check condition
  | .sort keys => sortKeys check keys
  | .aggregation grouping => aggregation check grouping
  | .projection selected => projection check selected
  | .target found => target check found

/-- The check holds at every node of some expressions. -/
def expressions (check : NodeCheck) : List Expression → Prop
  | [] => True
  | first :: rest => expression check first ∧ expressions check rest

/-- The check holds at every node of a call's arguments. -/
def function (check : NodeCheck) : FunctionCall → Prop
  | .mk _ arguments _ => expressions check arguments

/-- The check holds at every node of a condition. -/
def filter (check : NodeCheck) : Filter → Prop
  | .isNull operand | .isNotNull operand => expression check operand
  | .compare left _ right | .isIn left right | .isNotIn left right =>
      expression check left ∧ expression check right
  | .between operand lower upper =>
      expression check operand ∧ expression check lower ∧ expression check upper
  | .stringMatch left _ _ _ => expression check left
  | .and conditions | .or conditions => filters check conditions
  | .not condition => filter check condition
  | .hasRows query | .hasNoRows query => subQuery check query

/-- The check holds at every node of some conditions. -/
def filters (check : NodeCheck) : List Filter → Prop
  | [] => True
  | first :: rest => filter check first ∧ filters check rest

/-- The check holds at every node of a condition that may be missing. -/
def filterIfAny (check : NodeCheck) : Option Filter → Prop
  | none => True
  | some condition => filter check condition

/-- The check holds at a target and at every node of its joins. -/
def target (check : NodeCheck) : Target → Prop
  | .mk name entity _ joined => check.ofTarget name entity ∧ joins check joined

/-- The check holds at every node of some joins. -/
def joins (check : NodeCheck) : List Join → Prop
  | [] => True
  | first :: rest => join check first ∧ joins check rest

/-- The check holds at every node of a join. -/
def join (check : NodeCheck) : Join → Prop
  | .mk _ joined condition => target check joined ∧ filterIfAny check condition

/-- The check holds at every node of some sort keys. -/
def sortKeys (check : NodeCheck) : List SortKey → Prop
  | [] => True
  | first :: rest => sortKey check first ∧ sortKeys check rest

/-- The check holds at every node of a sort key. -/
def sortKey (check : NodeCheck) : SortKey → Prop
  | .mk key _ => expression check key

/-- The check holds at every node of a grouping. -/
def aggregation (check : NodeCheck) : Aggregation → Prop
  | .mk keys having => expressions check keys ∧ filterIfAny check having

/-- The check holds at a projection and at every node in it. -/
def projection (check : NodeCheck) : Projection → Prop
  | .path found => check.ofProjection (.path found) ∧ check.ofPath found
  | .function call => check.ofProjection (.function call) ∧ function check call
  | .properties items => check.ofProjection (.properties items) ∧ properties check items
  | .constant value => check.ofProjection (.constant value)
  | .target name => check.ofProjection (.target name)
  | .selectAll => check.ofProjection .selectAll
  | .countAll => check.ofProjection .countAll

/-- The check holds at every node of some projected properties. -/
def properties (check : NodeCheck) : List NamedProperty → Prop
  | [] => True
  | first :: rest => property check first ∧ properties check rest

/-- The check holds at every node of a projected property. -/
def property (check : NodeCheck) : NamedProperty → Prop
  | .mk _ item => expression check item

/-- The check holds at every node of a sub-query. -/
def subQuery (check : NodeCheck) : SubQuery → Prop
  | .mk queried condition selected _ =>
      target check queried ∧ filterIfAny check condition ∧ projection check selected

end

end NodeCheck

/-- The check holds at every node of an operation. -/
structure NodeCheck.Throughout (check : NodeCheck) (operation : Operation) : Prop where
  target : check.target operation.target
  filter : check.filterIfAny operation.filter
  aggregation : ∀ grouping, operation.aggregation = some grouping → check.aggregation grouping
  sort : ∀ keys, operation.sort = some keys → check.sortKeys keys
  projection : ∀ selected, operation.projection = some selected → check.projection selected
  paths : ∀ assignment ∈ operation.values, check.ofPath assignment.1
  values : ∀ assignment ∈ operation.values, check.expression assignment.2

/-! ## Assigned references -/

/-- No string that the operation assigns starts with the marker of references. -/
def Operation.AssignsNoReference (operation : Operation) (marker : Char) : Prop :=
  ∀ assignment ∈ operation.values, ∀ text, assignment.2 = .constant (.string text) →
    text.toList.head? ≠ some marker

theorem Dialect.looksLikeReference_of_head?
    {dialect : Dialect}
    {text : String}
    (head : text.toList.head? ≠ some dialect.parameterMarker) :
    dialect.looksLikeReference text = false := by
  unfold looksLikeReference
  split
  · next first second rest characters =>
      have different : first ≠ dialect.parameterMarker := by simpa [characters] using head
      simpa using different
  · rfl

end ObjectQuery
