import ObjectQuery.Expression.Basic
import ObjectQuery.Text.Case
import ObjectQuery.Text.Search

/-!
# Evaluating filters

A filter decides a row of properties held in memory. Properties are found by their
full name, whatever target they are qualified with. Values of one kind are compared
as such and numbers of different kinds as floating point numbers; a comparison with
null, or of values that do not compare, is false.
-/

namespace ObjectQuery

/-- The properties of a row by full name. -/
structure PropertyRow where
  entries : List (String × Value)

/-- The value of a property. -/
def PropertyRow.get? (row : PropertyRow) (name : String) : Option Value :=
  (row.entries.find? fun entry => entry.1 = name).map Prod.snd

/-- Why a filter decides nothing. -/
inductive EvaluationError where
  | unknownProperty (name : String)
  | unsupported (construct : String)
  | parameterCount (used bound : Nat)
  | malformedPattern (pattern : String)
  deriving DecidableEq, Repr

/-- The message of an evaluation error. -/
def EvaluationError.message : EvaluationError → String
  | .unknownProperty name => "unknown property '" ++ name ++ "'"
  | .unsupported construct => "cannot evaluate " ++ construct
  | .parameterCount used bound =>
      "parameter count mismatch: filter uses " ++ toString used ++ ", " ++ toString bound ++
        " bound"
  | .malformedPattern pattern => "pattern '" ++ pattern ++ "' does not fit its match mode"

namespace Value

/-- The order of two values, if they compare. -/
def compare? (left right : Value) : Option Ordering :=
  match left, right with
  | .null, _ | _, .null => none
  | .integer left, .integer right => some (compare left.toInt right.toInt)
  | .string left, .string right | .enum left, .enum right => some (compare left right)
  | .boolean left, .boolean right => some (compare left right)
  | .date left, .date right => some (left.order right)
  | .time left, .time right => some (left.order right)
  | .dateTime left, .dateTime right => some (left.order right)
  | left, right =>
      match left.binary64?, right.binary64? with
      | some left, some right => left.compare? right
      | _, _ => none

end Value

namespace CompareOperator

/-- Whether an operator accepts the order of its sides. -/
def accepts : CompareOperator → Ordering → Bool
  | .equal, order => order == .eq
  | .notEqual, order => order != .eq
  | .greater inclusive, order => order == .gt || (inclusive && order == .eq)
  | .less inclusive, order => order == .lt || (inclusive && order == .eq)

/-- Whether an operator holds between two values. -/
def holds (operator : CompareOperator) (left right : Value) : Bool :=
  match left.compare? right with
  | some order => operator.accepts order
  | none => false

end CompareOperator

/-- Whether a text matches another in a mode. -/
def MatchMode.holds (mode : MatchMode) (subject needle : String) : Bool :=
  match mode with
  | .contains => Text.contains subject needle
  | .startsWith => Text.beginsWith subject needle
  | .endsWith => Text.finishesWith subject needle

namespace Evaluation

/-- The result of a function for a value. -/
def applied (kind : FunctionKind) (value : Value) : Except EvaluationError Value :=
  match kind, value with
  | _, .null => .ok .null
  | .lower, .string text => .ok (.string (Text.lowercase text))
  | .upper, .string text => .ok (.string (Text.uppercase text))
  | kind, _ => .error (.unsupported kind.name)

mutual

/-- The value of an operand for a row. -/
def operand (row : PropertyRow) : Expression → Except EvaluationError Value
  | .path path =>
      match row.get? path.fullName with
      | some value => .ok value
      | none => .error (.unknownProperty path.fullName)
  | .constant value => .ok value
  | .function call => function row call
  | other => .error (.unsupported other.kind.name)

/-- The value of a function of one argument for a row. -/
def function (row : PropertyRow) : FunctionCall → Except EvaluationError Value
  | .mk kind arguments _ =>
      match arguments with
      | [argument] => do
          let value ← operand row argument
          applied kind value
      | _ => .error (.unsupported kind.name)

end

/-- Whether a value equals one of the candidates. -/
def isMember (value candidates : Value) : Bool :=
  let items :=
    match candidates with
    | .list items => items
    | single => [single]
  items.any fun item => value.compare? item == some .eq

/-- Whether two texts match; other values never do. -/
def matchesText (mode : MatchMode) (ignoreCase : Bool) : Value → Value → Bool
  | .string subject, .string needle =>
      if ignoreCase then
        mode.holds (Text.lowercase subject) (Text.lowercase needle)
      else
        mode.holds subject needle
  | _, _ => false

mutual

/-- Whether a row meets a condition. -/
def filter (row : PropertyRow) : Filter → Except EvaluationError Bool
  | .isNull tested => do
      let value ← operand row tested
      .ok value.isNull
  | .isNotNull tested => do
      let value ← operand row tested
      .ok !value.isNull
  | .compare left operator right => do
      let left ← operand row left
      let right ← operand row right
      .ok (operator.holds left right)
  | .between tested lower upper => do
      let value ← operand row tested
      let lower ← operand row lower
      let upper ← operand row upper
      .ok ((CompareOperator.greater true).holds value lower &&
        (CompareOperator.less true).holds value upper)
  | .isIn left right => do
      let value ← operand row left
      let candidates ← operand row right
      .ok (isMember value candidates)
  | .isNotIn left right => do
      let value ← operand row left
      if value.isNull then
        .ok false
      else do
        let candidates ← operand row right
        .ok !isMember value candidates
  | .stringMatch left value mode ignoreCase => do
      let subject ← operand row left
      let needle ← operand row value
      .ok (matchesText mode ignoreCase subject needle)
  | .and conditions => all row conditions
  | .or conditions => any row conditions
  | .not condition => do
      let met ← filter row condition
      .ok !met
  | .hasRows _ | .hasNoRows _ => .error (.unsupported "sub-query")

/-- Whether a row meets every condition, asked up to the first it does not meet. -/
def all (row : PropertyRow) : List Filter → Except EvaluationError Bool
  | [] => .ok true
  | first :: rest => do
      let met ← filter row first
      if met then all row rest else .ok false

/-- Whether a row meets some condition, asked up to the first it meets. -/
def any (row : PropertyRow) : List Filter → Except EvaluationError Bool
  | [] => .ok false
  | first :: rest => do
      let met ← filter row first
      if met then .ok true else any row rest

end

end Evaluation

/-- Whether a row meets a condition. -/
def Filter.evaluate (condition : Filter) (row : PropertyRow) : Except EvaluationError Bool :=
  Evaluation.filter row condition

end ObjectQuery
