import ObjectQuery.Operation.Basic

/-!
# Masking the payload of constants

Two operations say the same thing of different data when they differ at most in the
payloads of the constants they bind. Masking puts one fixed payload into every such
constant: the variant of a value stays, and of a list its length and the variants of its
items. Operations with equal masks are those that differ in payloads alone.

A constant that is projected is written into the statement instead of being bound, and
keeps its payload.
-/

namespace ObjectQuery

namespace Value

/-- A fixed value of the same variant. -/
def sample : Value → Value
  | .null => .null
  | .boolean _ => .boolean false
  | .integer _ => .integer 0
  | .float _ => .float ⟨0⟩
  | .decimal _ => .decimal ""
  | .string _ => .string ""
  | .date _ => .date Date.epoch
  | .time _ => .time TimeOfDay.midnight
  | .dateTime _ => .dateTime (DateTime.startOf Date.epoch)
  | .enum _ => .enum ""
  | .list _ => .list []

/-- The value without its payload; a list keeps the variants of its items. -/
def masked : Value → Value
  | .list items => .list (items.map sample)
  | value => value.sample

@[simp] theorem isNull_sample (value : Value) : value.sample.isNull = value.isNull := by
  cases value <;> rfl

end Value

mutual

/-- The node with the payloads of its constants masked. -/
def Expression.masked : Expression → Expression
  | .path path => .path path
  | .constant value => .constant value.masked
  | .function call => .function (FunctionCall.masked call)
  | .subQuery query => .subQuery (SubQuery.masked query)
  | .filter condition => .filter (Filter.masked condition)
  | .sort keys => .sort (SortKey.allMasked keys)
  | .aggregation grouping => .aggregation (Aggregation.masked grouping)
  | .projection selected => .projection (Projection.masked selected)
  | .target target => .target (Target.masked target)
  | .custom node => .custom node

/-- The nodes with the payloads of their constants masked. -/
def Expression.allMasked : List Expression → List Expression
  | [] => []
  | first :: rest => Expression.masked first :: Expression.allMasked rest

/-- The call with the payloads in its arguments masked. -/
def FunctionCall.masked : FunctionCall → FunctionCall
  | .mk kind arguments distinct => .mk kind (Expression.allMasked arguments) distinct

/-- The condition with the payloads in its operands masked. -/
def Filter.masked : Filter → Filter
  | .isNull operand => .isNull (Expression.masked operand)
  | .isNotNull operand => .isNotNull (Expression.masked operand)
  | .compare left operator right =>
      .compare (Expression.masked left) operator (Expression.masked right)
  | .between operand lower upper =>
      .between (Expression.masked operand) (Expression.masked lower) (Expression.masked upper)
  | .isIn left right => .isIn (Expression.masked left) (Expression.masked right)
  | .isNotIn left right => .isNotIn (Expression.masked left) (Expression.masked right)
  | .stringMatch left value mode ignoreCase =>
      .stringMatch (Expression.masked left) (Expression.masked value) mode ignoreCase
  | .and conditions => .and (Filter.allMasked conditions)
  | .or conditions => .or (Filter.allMasked conditions)
  | .not condition => .not (Filter.masked condition)
  | .hasRows query => .hasRows (SubQuery.masked query)
  | .hasNoRows query => .hasNoRows (SubQuery.masked query)

/-- The conditions with the payloads in their operands masked. -/
def Filter.allMasked : List Filter → List Filter
  | [] => []
  | first :: rest => Filter.masked first :: Filter.allMasked rest

/-- A condition that may be missing, with its payloads masked. -/
def Filter.maskedIfAny : Option Filter → Option Filter
  | none => none
  | some condition => some (Filter.masked condition)

/-- The target with the payloads in the conditions of its joins masked. -/
def Target.masked : Target → Target
  | .mk name entity aliasName joins => .mk name entity aliasName (Join.allMasked joins)

/-- The join with the payloads in its conditions masked. -/
def Join.masked : Join → Join
  | .mk joinType target condition =>
      .mk joinType (Target.masked target) (Filter.maskedIfAny condition)

/-- The joins with the payloads in their conditions masked. -/
def Join.allMasked : List Join → List Join
  | [] => []
  | first :: rest => Join.masked first :: Join.allMasked rest

/-- The key with the payloads in its expression masked. -/
def SortKey.masked : SortKey → SortKey
  | .mk expression direction => .mk (Expression.masked expression) direction

/-- The keys with the payloads in their expressions masked. -/
def SortKey.allMasked : List SortKey → List SortKey
  | [] => []
  | first :: rest => SortKey.masked first :: SortKey.allMasked rest

/-- The grouping with the payloads in its keys and its condition masked. -/
def Aggregation.masked : Aggregation → Aggregation
  | .mk keys having => .mk (Expression.allMasked keys) (Filter.maskedIfAny having)

/-- The projection with the payloads it binds masked; a projected constant stays. -/
def Projection.masked : Projection → Projection
  | .path path => .path path
  | .function call => .function (FunctionCall.masked call)
  | .constant value => .constant value
  | .target name => .target name
  | .properties items => .properties (NamedProperty.allMasked items)
  | .selectAll => .selectAll
  | .countAll => .countAll

/-- The property with the payloads in its expression masked. -/
def NamedProperty.masked : NamedProperty → NamedProperty
  | .mk name expression => .mk name (Expression.masked expression)

/-- The properties with the payloads in their expressions masked. -/
def NamedProperty.allMasked : List NamedProperty → List NamedProperty
  | [] => []
  | first :: rest => NamedProperty.masked first :: NamedProperty.allMasked rest

/-- The sub-query with the payloads it binds masked. -/
def SubQuery.masked : SubQuery → SubQuery
  | .mk target filter projection correlations =>
      .mk (Target.masked target) (Filter.maskedIfAny filter) (Projection.masked projection)
        correlations

end

/-- The assignments with the payloads they bind masked. -/
def Operation.maskedValues (values : List (Path × Expression)) : List (Path × Expression) :=
  values.map fun assignment => (assignment.1, assignment.2.masked)

/-- The operation with the payloads it binds masked. -/
def Operation.masked (operation : Operation) : Operation :=
  { operation with
    target := operation.target.masked
    filter := operation.filter.map Filter.masked
    aggregation := operation.aggregation.map Aggregation.masked
    sort := operation.sort.map SortKey.allMasked
    projection := operation.projection.map Projection.masked
    values := Operation.maskedValues operation.values }

section

-- The equations of the mutual definitions are made here, once for all the lemmas about them.
attribute [local simp]
  Expression.masked Expression.allMasked FunctionCall.masked
  Filter.masked Filter.allMasked Filter.maskedIfAny
  Target.masked Join.masked Join.allMasked
  SortKey.masked SortKey.allMasked Aggregation.masked
  Projection.masked NamedProperty.masked NamedProperty.allMasked SubQuery.masked

namespace Expression

@[simp] theorem kind_masked (expression : Expression) : expression.masked.kind = expression.kind := by
  cases expression <;> simp [kind]

@[simp] theorem isOperand_masked (expression : Expression) :
    expression.masked.isOperand = expression.isOperand := by
  cases expression <;> simp [isOperand]

@[simp] theorem isNone_constant?_masked (expression : Expression) :
    expression.masked.constant?.isNone = expression.constant?.isNone := by
  cases expression <;> simp [constant?]

@[simp] theorem length_allMasked (expressions : List Expression) :
    (allMasked expressions).length = expressions.length := by
  induction expressions with
  | nil => rfl
  | cons first rest inductionHypothesis => simp [inductionHypothesis]

@[simp] theorem isEmpty_allMasked (expressions : List Expression) :
    (allMasked expressions).isEmpty = expressions.isEmpty := by
  cases expressions <;> rfl

end Expression

@[simp] theorem SortKey.isEmpty_allMasked (keys : List SortKey) :
    (SortKey.allMasked keys).isEmpty = keys.isEmpty := by
  cases keys <;> rfl

@[simp] theorem NamedProperty.isEmpty_allMasked (items : List NamedProperty) :
    (NamedProperty.allMasked items).isEmpty = items.isEmpty := by
  cases items <;> rfl

@[simp] theorem Join.isEmpty_allMasked (joins : List Join) :
    (Join.allMasked joins).isEmpty = joins.isEmpty := by
  cases joins <;> rfl

@[simp] theorem Projection.hasSeveralColumns_masked (projection : Projection) :
    projection.masked.hasSeveralColumns = projection.hasSeveralColumns := by
  cases projection <;> simp [hasSeveralColumns]

namespace Target

@[simp] theorem name_masked (target : Target) : target.masked.name = target.name := by
  cases target; simp [name]

@[simp] theorem entity_masked (target : Target) : target.masked.entity = target.entity := by
  cases target; simp [entity]

@[simp] theorem aliasName_masked (target : Target) : target.masked.aliasName = target.aliasName := by
  cases target; simp [aliasName]

@[simp] theorem joins_masked (target : Target) : target.masked.joins = Join.allMasked target.joins := by
  cases target; simp [joins]

end Target

end

end ObjectQuery
