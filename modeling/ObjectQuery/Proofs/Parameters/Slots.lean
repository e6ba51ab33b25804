import ObjectQuery.Operation.Basic

/-!
# Parameters that a node binds

The number of parameters is read off a node before it is written: each constant that is
bound takes one, a list one for each of its items, and a string match one for its pattern.
A null constant is written as a word, and a projected constant as a literal.
-/

namespace ObjectQuery

/-- The parameters that a constant takes where it is bound. -/
def Value.slots : Value → Nat
  | .null => 0
  | .list items => items.length
  | _ => 1

mutual

/-- The parameters that a node binds. -/
def Expression.slots : Expression → Nat
  | .path _ | .custom _ => 0
  | .constant value => value.slots
  | .function call => FunctionCall.slots call
  | .subQuery query => SubQuery.slots query
  | .filter condition => Filter.slots condition
  | .sort keys => SortKey.totalSlots keys
  | .aggregation grouping => Aggregation.slots grouping
  | .projection selected => Projection.slots selected
  | .target found => Target.slots found

/-- The parameters that some nodes bind. -/
def Expression.totalSlots : List Expression → Nat
  | [] => 0
  | first :: rest => Expression.slots first + Expression.totalSlots rest

/-- The parameters that a call's arguments bind. -/
def FunctionCall.slots : FunctionCall → Nat
  | .mk _ arguments _ => Expression.totalSlots arguments

/-- The parameters that a condition binds. -/
def Filter.slots : Filter → Nat
  | .isNull operand | .isNotNull operand => Expression.slots operand
  | .compare left _ right | .isIn left right | .isNotIn left right =>
      Expression.slots left + Expression.slots right
  | .between operand lower upper =>
      Expression.slots operand + Expression.slots lower + Expression.slots upper
  | .stringMatch left _ _ _ => Expression.slots left + 1
  | .and conditions | .or conditions => Filter.totalSlots conditions
  | .not condition => Filter.slots condition
  | .hasRows query | .hasNoRows query => SubQuery.slots query

/-- The parameters that some conditions bind. -/
def Filter.totalSlots : List Filter → Nat
  | [] => 0
  | first :: rest => Filter.slots first + Filter.totalSlots rest

/-- The parameters of a condition that may be missing. -/
def Filter.slotsIfAny : Option Filter → Nat
  | none => 0
  | some condition => Filter.slots condition

/-- The parameters that the conditions of a target's joins bind. -/
def Target.slots : Target → Nat
  | .mk _ _ _ joins => Join.totalSlots joins

/-- The parameters that some joins bind. -/
def Join.totalSlots : List Join → Nat
  | [] => 0
  | first :: rest => Join.slots first + Join.totalSlots rest

/-- The parameters that a join's condition and the joins within it bind. -/
def Join.slots : Join → Nat
  | .mk _ target condition => Filter.slotsIfAny condition + Target.slots target

/-- The parameters that some sort keys bind. -/
def SortKey.totalSlots : List SortKey → Nat
  | [] => 0
  | first :: rest => SortKey.slots first + SortKey.totalSlots rest

/-- The parameters that a sort key binds. -/
def SortKey.slots : SortKey → Nat
  | .mk key _ => Expression.slots key

/-- The parameters that a grouping binds. -/
def Aggregation.slots : Aggregation → Nat
  | .mk keys having => Expression.totalSlots keys + Filter.slotsIfAny having

/-- The parameters that a projection binds. -/
def Projection.slots : Projection → Nat
  | .function call => FunctionCall.slots call
  | .properties items => NamedProperty.totalSlots items
  | .path _ | .constant _ | .target _ | .selectAll | .countAll => 0

/-- The parameters that some projected properties bind. -/
def NamedProperty.totalSlots : List NamedProperty → Nat
  | [] => 0
  | first :: rest => NamedProperty.slots first + NamedProperty.totalSlots rest

/-- The parameters that a projected property binds. -/
def NamedProperty.slots : NamedProperty → Nat
  | .mk _ item => Expression.slots item

/-- The parameters that a sub-query binds. -/
def SubQuery.slots : SubQuery → Nat
  | .mk target condition projection _ =>
      Target.slots target + Filter.slotsIfAny condition + Projection.slots projection

end

end ObjectQuery
