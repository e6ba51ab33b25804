import ObjectQuery.Proofs.Inquiries.Basic

/-!
# The places of operands

A list constant is meant for one place: the right side of a membership. Here are the places in
which the operands of a node stand, what each of them takes in the way of lists, and the node
with something that is no list in the stead of every list, against which the check of the node
itself is measured.

Patterns, keys and projected constants are no such places: there no list stands in a node that
is valid, nor does what is put in its stead.
-/

namespace ObjectQuery

/-- Where an operand stands in its node. -/
inductive OperandPlace where
  | nullTest
  | comparedLeft
  | comparedRight
  /-- What lies between two bounds. -/
  | bounded
  | lowerBound
  | upperBound
  /-- The left side of a membership. -/
  | member
  /-- The right side of a membership. -/
  | members
  /-- The left side of a string match. -/
  | subject
  | argument
  /-- A named property of a record. -/
  | property
  deriving DecidableEq, Repr

/-- The lists that may stand in a place as constants. -/
def OperandPlace.Takes : OperandPlace → List Value → Prop
  | .comparedRight, _ => False
  | .members, items => items ≠ [] ∧ ∀ item ∈ items, item.isNull = false
  | _, _ => True

/-- The operands of a condition, those of other conditions in it apart. -/
def Filter.operands : Filter → List (OperandPlace × Expression)
  | .isNull operand | .isNotNull operand => [(.nullTest, operand)]
  | .compare left _ right => [(.comparedLeft, left), (.comparedRight, right)]
  | .between operand lower upper =>
      [(.bounded, operand), (.lowerBound, lower), (.upperBound, upper)]
  | .isIn left right | .isNotIn left right => [(.member, left), (.members, right)]
  | .stringMatch left _ _ _ => [(.subject, left)]
  | .and _ | .or _ | .not _ | .hasRows _ | .hasNoRows _ => []

/-- The operands of a node, those of other nodes in it apart. -/
def Expression.operands : Expression → List (OperandPlace × Expression)
  | .function (.mk _ arguments _) => arguments.map fun argument => (.argument, argument)
  | .filter condition => condition.operands
  | .projection (.properties items) => items.map fun
      | .mk _ item => (.property, item)
  | _ => []

/-! ## Nodes without lists -/

/-- The value, or a truth value if it is a list. -/
def Value.unlisted : Value → Value
  | .list _ => .boolean true
  | value => value

mutual

/-- The node without lists among its constants. -/
def Expression.unlisted : Expression → Expression
  | .path path => .path path
  | .constant value => .constant value.unlisted
  | .function call => .function (FunctionCall.unlisted call)
  | .subQuery query => .subQuery (SubQuery.unlisted query)
  | .filter condition => .filter (Filter.unlisted condition)
  | .sort keys => .sort (SortKey.allUnlisted keys)
  | .aggregation grouping => .aggregation (Aggregation.unlisted grouping)
  | .projection selected => .projection (Projection.unlisted selected)
  | .target target => .target (Target.unlisted target)
  | .custom node => .custom node

/-- The nodes without lists among their constants. -/
def Expression.allUnlisted : List Expression → List Expression
  | [] => []
  | first :: rest => Expression.unlisted first :: Expression.allUnlisted rest

/-- The call without lists in its arguments. -/
def FunctionCall.unlisted : FunctionCall → FunctionCall
  | .mk kind arguments distinct => .mk kind (Expression.allUnlisted arguments) distinct

/-- The condition without lists in its operands. -/
def Filter.unlisted : Filter → Filter
  | .isNull operand => .isNull (Expression.unlisted operand)
  | .isNotNull operand => .isNotNull (Expression.unlisted operand)
  | .compare left operator right =>
      .compare (Expression.unlisted left) operator (Expression.unlisted right)
  | .between operand lower upper =>
      .between (Expression.unlisted operand) (Expression.unlisted lower)
        (Expression.unlisted upper)
  | .isIn left right => .isIn (Expression.unlisted left) (Expression.unlisted right)
  | .isNotIn left right => .isNotIn (Expression.unlisted left) (Expression.unlisted right)
  | .stringMatch left value mode ignoreCase =>
      .stringMatch (Expression.unlisted left) value mode ignoreCase
  | .and conditions => .and (Filter.allUnlisted conditions)
  | .or conditions => .or (Filter.allUnlisted conditions)
  | .not condition => .not (Filter.unlisted condition)
  | .hasRows query => .hasRows (SubQuery.unlisted query)
  | .hasNoRows query => .hasNoRows (SubQuery.unlisted query)

/-- The conditions without lists in their operands. -/
def Filter.allUnlisted : List Filter → List Filter
  | [] => []
  | first :: rest => Filter.unlisted first :: Filter.allUnlisted rest

/-- A condition that may be missing, without lists in its operands. -/
def Filter.unlistedIfAny : Option Filter → Option Filter
  | none => none
  | some condition => some (Filter.unlisted condition)

/-- The target without lists in the conditions of its joins. -/
def Target.unlisted : Target → Target
  | .mk name entity aliasName joins => .mk name entity aliasName (Join.allUnlisted joins)

/-- The join without lists in its conditions. -/
def Join.unlisted : Join → Join
  | .mk joinType target condition =>
      .mk joinType (Target.unlisted target) (Filter.unlistedIfAny condition)

/-- The joins without lists in their conditions. -/
def Join.allUnlisted : List Join → List Join
  | [] => []
  | first :: rest => Join.unlisted first :: Join.allUnlisted rest

/-- The key without lists in its expression. -/
def SortKey.unlisted : SortKey → SortKey
  | .mk expression direction => .mk (Expression.unlisted expression) direction

/-- The keys without lists in their expressions. -/
def SortKey.allUnlisted : List SortKey → List SortKey
  | [] => []
  | first :: rest => SortKey.unlisted first :: SortKey.allUnlisted rest

/-- The grouping without lists in its keys and its condition. -/
def Aggregation.unlisted : Aggregation → Aggregation
  | .mk keys having => .mk (Expression.allUnlisted keys) (Filter.unlistedIfAny having)

/-- The projection without lists in its parts; a projected constant stays. -/
def Projection.unlisted : Projection → Projection
  | .path path => .path path
  | .function call => .function (FunctionCall.unlisted call)
  | .constant value => .constant value
  | .target name => .target name
  | .properties items => .properties (NamedProperty.allUnlisted items)
  | .selectAll => .selectAll
  | .countAll => .countAll

/-- The property without lists in its expression. -/
def NamedProperty.unlisted : NamedProperty → NamedProperty
  | .mk name expression => .mk name (Expression.unlisted expression)

/-- The properties without lists in their expressions. -/
def NamedProperty.allUnlisted : List NamedProperty → List NamedProperty
  | [] => []
  | first :: rest => NamedProperty.unlisted first :: NamedProperty.allUnlisted rest

/-- The sub-query without lists in its clauses. -/
def SubQuery.unlisted : SubQuery → SubQuery
  | .mk target filter projection correlations =>
      .mk (Target.unlisted target) (Filter.unlistedIfAny filter) (Projection.unlisted projection)
        correlations

end

section

-- The equations of the mutual definitions are made here, once for all the lemmas about them.
attribute [local simp]
  Expression.unlisted Expression.allUnlisted FunctionCall.unlisted
  Filter.unlisted Filter.allUnlisted Filter.unlistedIfAny
  Target.unlisted Join.unlisted Join.allUnlisted
  SortKey.unlisted SortKey.allUnlisted Aggregation.unlisted
  Projection.unlisted NamedProperty.unlisted NamedProperty.allUnlisted SubQuery.unlisted

namespace Expression

@[simp]
theorem kind_unlisted (expression : Expression) : expression.unlisted.kind = expression.kind := by
  cases expression <;> simp [kind]

@[simp]
theorem isOperand_unlisted (expression : Expression) :
    expression.unlisted.isOperand = expression.isOperand := by
  cases expression <;> simp [isOperand]

@[simp]
theorem isNone_constant?_unlisted (expression : Expression) :
    expression.unlisted.constant?.isNone = expression.constant?.isNone := by
  cases expression <;> simp [constant?]

@[simp]
theorem length_allUnlisted (expressions : List Expression) :
    (allUnlisted expressions).length = expressions.length := by
  induction expressions with
  | nil => rfl
  | cons first rest inductionHypothesis => simp [inductionHypothesis]

@[simp]
theorem isEmpty_allUnlisted (expressions : List Expression) :
    (allUnlisted expressions).isEmpty = expressions.isEmpty := by
  cases expressions <;> rfl

end Expression

@[simp]
theorem SortKey.isEmpty_allUnlisted (keys : List SortKey) :
    (SortKey.allUnlisted keys).isEmpty = keys.isEmpty := by
  cases keys <;> rfl

@[simp]
theorem NamedProperty.isEmpty_allUnlisted (items : List NamedProperty) :
    (NamedProperty.allUnlisted items).isEmpty = items.isEmpty := by
  cases items <;> rfl

@[simp]
theorem Projection.hasSeveralColumns_unlisted (projection : Projection) :
    projection.unlisted.hasSeveralColumns = projection.hasSeveralColumns := by
  cases projection <;> simp [hasSeveralColumns]

end

/-! ## Lists in their places -/

/-- If the operand is a list constant, the place takes its items. -/
def Expression.FitsIn (operand : Expression) (place : OperandPlace) : Prop :=
  ∀ items, operand = .constant (.list items) → place.Takes items

/-- The list constants among some operands stand in places that take them. -/
def OperandPlace.AllFit (operands : List (OperandPlace × Expression)) : Prop :=
  ∀ place items, (place, Expression.constant (.list items)) ∈ operands → place.Takes items

/-- The list constants among the operands of some nodes stand in places that take them. -/
def Inquiry.AllListsFit (inquiries : List Inquiry) : Prop :=
  ∀ inquiry ∈ inquiries, OperandPlace.AllFit inquiry.node.operands

namespace Expression

/-- There are two places that do not take every list. -/
@[simp]
theorem fitsIn_of_ne
    {place : OperandPlace}
    (compared : place ≠ .comparedRight)
    (members : place ≠ .members)
    (operand : Expression) :
    operand.FitsIn place := by
  intro items _
  cases place with
  | comparedRight => exact absurd rfl compared
  | members => exact absurd rfl members
  | _ => trivial

@[simp]
theorem fitsIn_constant_list {items : List Value} {place : OperandPlace} :
    (constant (.list items)).FitsIn place ↔ place.Takes items :=
  ⟨fun fits => fits items rfl, fun takes _ same => by cases same; exact takes⟩

end Expression

namespace OperandPlace

open Expression

theorem allFit_iff {operands : List (OperandPlace × Expression)} :
    AllFit operands ↔ ∀ entry ∈ operands, entry.2.FitsIn entry.1 := by
  constructor
  · rintro fit ⟨place, operand⟩ member items rfl
    exact fit place items member
  · intro fit place items member
    exact fit _ member items rfl

@[simp]
theorem allFit_nil : AllFit [] :=
  allFit_iff.mpr (List.forall_mem_nil _)

@[simp]
theorem allFit_cons {place : OperandPlace} {operand : Expression}
    {rest : List (OperandPlace × Expression)} :
    AllFit ((place, operand) :: rest) ↔ operand.FitsIn place ∧ AllFit rest := by
  rw [allFit_iff, allFit_iff, List.forall_mem_cons]

/-- Arguments of functions may be any lists. -/
theorem allFit_arguments (call : FunctionCall) : AllFit (Expression.function call).operands := by
  obtain ⟨kind, arguments, distinct⟩ := call
  refine allFit_iff.mpr fun entry member => ?_
  obtain ⟨argument, -, rfl⟩ := List.mem_map.mp member
  have fits : argument.FitsIn .argument := fitsIn_of_ne (by decide) (by decide) argument
  exact fits

/-- Selected properties may be any lists, and nothing else that is selected is an operand. -/
theorem allFit_selected (selected : Projection) :
    AllFit (Expression.projection selected).operands := by
  cases selected with
  | properties items =>
      refine allFit_iff.mpr fun entry member => ?_
      obtain ⟨⟨name, item⟩, -, rfl⟩ := List.mem_map.mp member
      have fits : item.FitsIn .property := fitsIn_of_ne (by decide) (by decide) item
      exact fits
  | _ => exact allFit_nil

end OperandPlace

namespace Inquiry

@[simp]
theorem allListsFit_nil : AllListsFit [] :=
  List.forall_mem_nil _

@[simp]
theorem allListsFit_cons {depth : Nat} {node : Expression} {rest : List Inquiry} :
    AllListsFit (⟨depth, node⟩ :: rest) ↔
      OperandPlace.AllFit node.operands ∧ AllListsFit rest :=
  List.forall_mem_cons

@[simp]
theorem allListsFit_append {first second : List Inquiry} :
    AllListsFit (first ++ second) ↔ AllListsFit first ∧ AllListsFit second :=
  List.forall_mem_append

theorem allListsFit_into {depth : Nat} {node : Expression} :
    AllListsFit (into depth node) ↔
      OperandPlace.AllFit node.operands ∧ AllListsFit (node.inquiries depth) :=
  List.forall_mem_cons

end Inquiry
end ObjectQuery
