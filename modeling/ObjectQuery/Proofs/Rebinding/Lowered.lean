import ObjectQuery.Evaluation.Basic
import ObjectQuery.Proofs.Rebinding.Patterns

/-!
# Simple filters and small letters

A simple filter has no sub-queries and no custom nodes, and lists only where they are
searched. Strings that are matched without regard to case may as well be in small letters.
-/

namespace ObjectQuery

/-! ## Simple filters -/

mutual

/-- An operand without sub-queries, custom nodes and lists. -/
def Expression.IsSimple : Expression → Prop
  | .constant value => value.isList = false
  | .function call => FunctionCall.IsSimple call
  | .subQuery _ | .custom _ => False
  | _ => True

/-- A call with simple arguments. -/
def FunctionCall.IsSimple : FunctionCall → Prop
  | .mk _ arguments _ => Expression.AreSimple arguments

/-- Simple operands. -/
def Expression.AreSimple : List Expression → Prop
  | [] => True
  | first :: rest => Expression.IsSimple first ∧ Expression.AreSimple rest

end

/-- A simple operand, or a list that is searched. -/
def Expression.IsSimpleMember : Expression → Prop
  | .constant _ => True
  | other => other.IsSimple

mutual

/-- A filter without sub-queries and custom nodes, in which lists are only searched. -/
def Filter.IsSimple : Filter → Prop
  | .isNull operand | .isNotNull operand => operand.IsSimple
  | .compare left _ right => left.IsSimple ∧ right.IsSimple
  | .between operand lower upper => operand.IsSimple ∧ lower.IsSimple ∧ upper.IsSimple
  | .isIn left right | .isNotIn left right => left.IsSimple ∧ right.IsSimpleMember
  | .stringMatch left _ _ _ => left.IsSimple
  | .and conditions | .or conditions => Filter.AreSimple conditions
  | .not condition => Filter.IsSimple condition
  | .hasRows _ | .hasNoRows _ => False

/-- Simple filters. -/
def Filter.AreSimple : List Filter → Prop
  | [] => True
  | first :: rest => Filter.IsSimple first ∧ Filter.AreSimple rest

end

/-! ## Strings that are matched without regard to case -/

/-- A string constant in small letters. -/
def Expression.lowered : Expression → Expression
  | .constant (.string text) => .constant (.string (Text.lowercase text))
  | other => other

mutual

/-- The filter with the strings in small letters that are matched without regard to case. -/
def Filter.lowered : Filter → Filter
  | .stringMatch left value mode true => .stringMatch left value.lowered mode true
  | .and conditions => .and (Filter.allLowered conditions)
  | .or conditions => .or (Filter.allLowered conditions)
  | .not condition => .not (Filter.lowered condition)
  | other => other

/-- The filters with these strings in small letters. -/
def Filter.allLowered : List Filter → List Filter
  | [] => []
  | first :: rest => Filter.lowered first :: Filter.allLowered rest

end

namespace Evaluation

/-- Small letters decide a match without regard to case in the same way. -/
theorem matchesText_lowercase (mode : MatchMode) (subject : Value) (text : String) :
    matchesText mode true subject (.string (Text.lowercase text)) =
      matchesText mode true subject (.string text) := by
  cases subject with
  | string subject => simp only [matchesText, if_true, Text.lowercase_lowercase]
  | _ => rfl

theorem stringMatch_lowered
    (row : PropertyRow)
    (left value : Expression)
    (mode : MatchMode) :
    filter row (.stringMatch left value.lowered mode true) =
      filter row (.stringMatch left value mode true) := by
  unfold Expression.lowered
  split
  · simp only [filter, operand]
    cases operand row left with
    | error error => rfl
    | ok subject => exact congrArg Except.ok (matchesText_lowercase mode subject _)
  · rfl

mutual

/-- Small letters decide a filter in the same way, where they stand for others. -/
theorem filter_lowered (row : PropertyRow) :
    (condition : Filter) → filter row condition.lowered = filter row condition
  | .stringMatch left value mode true => by
      rw [Filter.lowered, stringMatch_lowered]
  | .and conditions => by
      simp only [Filter.lowered, filter, all_lowered row conditions]
  | .or conditions => by
      simp only [Filter.lowered, filter, any_lowered row conditions]
  | .not condition => by
      simp only [Filter.lowered, filter, filter_lowered row condition]
  | .stringMatch _ _ _ false | .isNull _ | .isNotNull _ | .compare _ _ _ | .between _ _ _
  | .isIn _ _ | .isNotIn _ _ | .hasRows _ | .hasNoRows _ => by
      simp only [Filter.lowered]

theorem all_lowered (row : PropertyRow) :
    (conditions : List Filter) → all row (Filter.allLowered conditions) = all row conditions
  | [] => by simp only [Filter.allLowered]
  | first :: rest => by
      simp only [Filter.allLowered, all, filter_lowered row first, all_lowered row rest]

theorem any_lowered (row : PropertyRow) :
    (conditions : List Filter) → any row (Filter.allLowered conditions) = any row conditions
  | [] => by simp only [Filter.allLowered]
  | first :: rest => by
      simp only [Filter.allLowered, any, filter_lowered row first, any_lowered row rest]

end

end Evaluation

end ObjectQuery
