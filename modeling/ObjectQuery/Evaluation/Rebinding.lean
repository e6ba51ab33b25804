import ObjectQuery.Evaluation.Basic
import ObjectQuery.Value.Layout

/-!
# Putting bound values back

The constants of a filter give way to bound values, in the order in which a
statement binds them: from left to right, and one value for each item of a list.
Null is never bound. The value of a string match is bound as a pattern, from which
wildcards and escape characters are taken off again.

A filter and its rebound form decide alike exactly when every constant reached the
parameter that its position expects.
-/

namespace ObjectQuery

/-- A step that takes bound values from the front of those that are left. -/
abbrev Rebinding := StateT (List Value) (Except EvaluationError)

namespace Rebinding

/-- The next bound value, of so many in all. -/
def next (total : Nat) : Rebinding Value :=
  fun left =>
    match left with
    | value :: rest => .ok (value, rest)
    | [] => .error (.parameterCount (total + 1) total)

/-- The bound values for the items of a list. -/
def items (total : Nat) : List Value → Rebinding (List Value)
  | [] => return []
  | item :: rest => do
      let bound ← if item.isNull then pure Value.null else next total
      let values ← items total rest
      return bound :: values

/-- The text that a bound pattern was made from. -/
def unwrapped (mode : MatchMode) (escape : Char) (bound : Value) : Rebinding String :=
  match bound with
  | .string pattern =>
      match Text.Pattern.unwrap? mode pattern escape with
      | some text => return text
      | none => throw (.malformedPattern pattern)
  | other => throw (.malformedPattern other.toText)

mutual

/-- An operand with its constants rebound. -/
def operand (total : Nat) : Expression → Rebinding Expression
  | .constant .null => return .constant .null
  | .constant (.list values) => do
      let values ← items total values
      return .constant (.list values)
  | .constant _ => do
      let value ← next total
      return .constant value
  | .function call => do
      let call ← function total call
      return .function call
  | .subQuery _ => throw (.unsupported "sub-query")
  | other => return other

/-- A function call with the constants in its arguments rebound. -/
def function (total : Nat) : FunctionCall → Rebinding FunctionCall
  | .mk kind arguments distinct => do
      let arguments ← operands total arguments
      return .mk kind arguments distinct

/-- Operands, one after the other. -/
def operands (total : Nat) : List Expression → Rebinding (List Expression)
  | [] => return []
  | first :: rest => do
      let first ← operand total first
      let rest ← operands total rest
      return first :: rest

end

mutual

/-- A condition with its constants rebound. -/
def filter (total : Nat) (escape : Char) : Filter → Rebinding Filter
  | .isNull tested => do
      let tested ← operand total tested
      return .isNull tested
  | .isNotNull tested => do
      let tested ← operand total tested
      return .isNotNull tested
  | .compare left operator right => do
      let left ← operand total left
      let right ← operand total right
      return .compare left operator right
  | .between tested lower upper => do
      let tested ← operand total tested
      let lower ← operand total lower
      let upper ← operand total upper
      return .between tested lower upper
  | .isIn left right => do
      let left ← operand total left
      let right ← operand total right
      return .isIn left right
  | .isNotIn left right => do
      let left ← operand total left
      let right ← operand total right
      return .isNotIn left right
  | .stringMatch left _ mode ignoreCase => do
      let left ← operand total left
      let bound ← next total
      let text ← unwrapped mode escape bound
      return .stringMatch left (.constant (.string text)) mode ignoreCase
  | .and conditions => do
      let conditions ← filters total escape conditions
      return .and conditions
  | .or conditions => do
      let conditions ← filters total escape conditions
      return .or conditions
  | .not condition => do
      let condition ← filter total escape condition
      return .not condition
  | .hasRows _ | .hasNoRows _ => throw (.unsupported "sub-query")

/-- Conditions, one after the other. -/
def filters (total : Nat) (escape : Char) : List Filter → Rebinding (List Filter)
  | [] => return []
  | first :: rest => do
      let first ← filter total escape first
      let rest ← filters total escape rest
      return first :: rest

end

end Rebinding

/-- The condition with its constants replaced by bound values, all of which must be used. -/
def Filter.withBoundValues (condition : Filter) (values : List Value) (escape : Char) :
    Except EvaluationError Filter := do
  let (rebound, left) ← Rebinding.filter values.length escape condition values
  if left.isEmpty then
    .ok rebound
  else
    .error (.parameterCount (values.length - left.length) values.length)

end ObjectQuery
