import ObjectQuery.Evaluation.Basic
import ObjectQuery.Expression.Validation

/-!
# Memberships and ranges as comparisons

A membership in a list asks for an equal item, and a range for two comparisons. Where the operands
have values, a range is the conjunction of its comparisons and a membership the disjunction of the
equalities.

The negated membership is no such conjunction. An item that does not compare with the operand is
not equal to it, and so does not stand in the way of the negated membership; but neither is it
unequal to the operand, and one such item makes the conjunction of the inequalities false.
-/

namespace ObjectQuery

variable {row : PropertyRow} {tested lower upper : Expression} {value least greatest : Value}

/-- Two conditions decide a row, and decide it alike. -/
def Filter.AnswerAlike (row : PropertyRow) (left right : Filter) : Prop :=
  ∃ answer, left.evaluate row = .ok answer ∧ right.evaluate row = .ok answer

theorem Filter.answerAlike_iff
    {left right : Filter}
    {first second : Bool}
    (leftDecides : left.evaluate row = .ok first)
    (rightDecides : right.evaluate row = .ok second) :
    AnswerAlike row left right ↔ first = second := by
  simp [AnswerAlike, leftDecides, rightDecides, eq_comm]

/-- The comparisons of an operand with each of the values. -/
def Filter.comparedWith (tested : Expression) (operator : CompareOperator)
    (items : List Value) : List Filter :=
  items.map fun item => .compare tested operator (.constant item)

namespace CompareOperator

theorem holds_equal (left right : Value) :
    equal.holds left right = (left.compare? right == some .eq) := by
  rw [holds]
  cases left.compare? right with
  | none => rfl
  | some order => cases order <;> rfl

/-- Values are unequal if they compare, and not as equal ones. -/
theorem holds_notEqual_iff {left right : Value} :
    notEqual.holds left right = true ↔
      (left.compare? right).isSome ∧ left.compare? right ≠ some .eq := by
  rw [holds]
  cases left.compare? right with
  | none => simp
  | some order => cases order <;> simp [accepts]

/-- Nothing compares with null. -/
theorem holds_null (operator : CompareOperator) (right : Value) :
    operator.holds .null right = false := by
  simp [holds, Value.compare?]

end CompareOperator

namespace Evaluation

theorem filter_compare
    (operator : CompareOperator)
    (evaluated : operand row tested = .ok value)
    (lowerEvaluated : operand row lower = .ok least) :
    filter row (.compare tested operator lower) = .ok (operator.holds value least) := by
  rw [filter, evaluated, lowerEvaluated]
  rfl

/-- A disjunction of comparisons is met if one of them holds. -/
theorem any_comparedWith
    (operator : CompareOperator)
    (evaluated : operand row tested = .ok value)
    (items : List Value) :
    any row (Filter.comparedWith tested operator items) =
      .ok (items.any (operator.holds value)) := by
  induction items with
  | nil => rw [Filter.comparedWith, List.map_nil, any, List.any_nil]
  | cons item items inductionHypothesis =>
      rw [Filter.comparedWith] at inductionHypothesis ⊢
      rw [List.map_cons, any, filter_compare operator evaluated rfl, inductionHypothesis,
        List.any_cons]
      cases operator.holds value item <;> rfl

/-- A conjunction of comparisons is met if all of them hold. -/
theorem all_comparedWith
    (operator : CompareOperator)
    (evaluated : operand row tested = .ok value)
    (items : List Value) :
    all row (Filter.comparedWith tested operator items) =
      .ok (items.all (operator.holds value)) := by
  induction items with
  | nil => rw [Filter.comparedWith, List.map_nil, all, List.all_nil]
  | cons item items inductionHypothesis =>
      rw [Filter.comparedWith] at inductionHypothesis ⊢
      rw [List.map_cons, all, filter_compare operator evaluated rfl, inductionHypothesis,
        List.all_cons]
      cases operator.holds value item <;> rfl

/-- A member of a list equals one of its items. -/
theorem isMember_list (items : List Value) :
    isMember value (.list items) = items.any (CompareOperator.equal.holds value) := by
  simp only [isMember, funext (CompareOperator.holds_equal value)]

theorem filter_isIn (evaluated : operand row tested = .ok value) (items : List Value) :
    filter row (.isIn tested (.constant (.list items))) =
      .ok (items.any (CompareOperator.equal.holds value)) := by
  rw [filter, evaluated, ← isMember_list]
  rfl

theorem filter_isNotIn (evaluated : operand row tested = .ok value) (items : List Value) :
    filter row (.isNotIn tested (.constant (.list items))) =
      .ok (!value.isNull && !items.any (CompareOperator.equal.holds value)) := by
  rw [filter, evaluated, ← isMember_list]
  cases isNull : value.isNull <;> simp [isNull, operand, Bind.bind, Except.bind]

theorem filter_between
    (evaluated : operand row tested = .ok value)
    (lowerEvaluated : operand row lower = .ok least)
    (upperEvaluated : operand row upper = .ok greatest) :
    filter row (.between tested lower upper) =
      .ok ((CompareOperator.greater true).holds value least &&
        (CompareOperator.less true).holds value greatest) := by
  rw [filter, evaluated, lowerEvaluated, upperEvaluated]
  rfl

/-- The two comparisons of a range, one after the other. -/
theorem all_bounds
    (evaluated : operand row tested = .ok value)
    (lowerEvaluated : operand row lower = .ok least)
    (upperEvaluated : operand row upper = .ok greatest) :
    all row [.compare tested (.greater true) lower, .compare tested (.less true) upper] =
      .ok ((CompareOperator.greater true).holds value least &&
        (CompareOperator.less true).holds value greatest) := by
  rw [all, filter_compare _ evaluated lowerEvaluated, all,
    filter_compare _ evaluated upperEvaluated, all]
  cases (CompareOperator.greater true).holds value least <;>
    cases (CompareOperator.less true).holds value greatest <;> rfl

end Evaluation

/-- That no item equals the value, and that every item is unequal to it, comes to the same unless
there is an item that does not compare with the value, and none that equals it. -/
theorem Value.noneEqual_eq_allUnequal_iff {items : List Value} :
    (!items.any (CompareOperator.equal.holds value)) =
        items.all (CompareOperator.notEqual.holds value) ↔
      (∃ item ∈ items, value.compare? item = some .eq) ∨
        ∀ item ∈ items, (value.compare? item).isSome := by
  by_cases found : ∃ item ∈ items, value.compare? item = some .eq
  · obtain ⟨item, member, equal⟩ := found
    have someEqual : items.any (CompareOperator.equal.holds value) = true :=
      List.any_eq_true.mpr ⟨item, member, by simp [CompareOperator.holds_equal, equal]⟩
    have notAll : items.all (CompareOperator.notEqual.holds value) = false :=
      List.all_eq_false.mpr
        ⟨item, member, fun unequal => (CompareOperator.holds_notEqual_iff.mp unequal).2 equal⟩
    rw [someEqual, notAll]
    exact iff_of_true rfl (.inl ⟨item, member, equal⟩)
  · have unequal (item : Value) (member : item ∈ items) : value.compare? item ≠ some .eq :=
      fun equal => found ⟨item, member, equal⟩
    have noneEqual : items.any (CompareOperator.equal.holds value) = false :=
      List.any_eq_false.mpr fun item member => by
        simpa [CompareOperator.holds_equal] using unequal item member
    rw [noneEqual, Bool.not_false, eq_comm, List.all_eq_true]
    refine Iff.trans (forall₂_congr fun item member => ?_) (or_iff_right found).symm
    rw [CompareOperator.holds_notEqual_iff, and_iff_left (unequal item member)]

/-- Where the operands have values, every membership in a list is answered like the disjunction of
the equalities with its items, and every range like the conjunction of its two comparisons. The
negated membership in a list with items is answered like the conjunction of the inequalities
exactly if the operand is null, or equals an item, or compares with every item. -/
theorem Filter.evaluate_like_comparisons (evaluated : Evaluation.operand row tested = .ok value) :
    (∀ items, AnswerAlike row (.isIn tested (.constant (.list items)))
        (.or (comparedWith tested .equal items))) ∧
      (∀ items, items ≠ [] →
        (AnswerAlike row (.isNotIn tested (.constant (.list items)))
            (.and (comparedWith tested .notEqual items)) ↔
          value.isNull = true ∨ (∃ item ∈ items, value.compare? item = some .eq) ∨
            ∀ item ∈ items, (value.compare? item).isSome)) ∧
      ∀ lower upper least greatest, Evaluation.operand row lower = .ok least →
        Evaluation.operand row upper = .ok greatest →
          AnswerAlike row (.between tested lower upper)
            (.and [.compare tested (.greater true) lower, .compare tested (.less true) upper]) := by
  refine ⟨fun items => ?_, fun items someItem => ?_, ?_⟩
  · have disjunction := Evaluation.any_comparedWith .equal evaluated items
    rw [← Evaluation.filter] at disjunction
    exact (answerAlike_iff (Evaluation.filter_isIn evaluated items) disjunction).mpr rfl
  · have conjunction := Evaluation.all_comparedWith .notEqual evaluated items
    rw [← Evaluation.filter] at conjunction
    rw [answerAlike_iff (Evaluation.filter_isNotIn evaluated items) conjunction]
    cases isNull : value.isNull with
    | true =>
        obtain rfl : value = .null := by
          cases value <;> simp_all [Value.isNull]
        obtain ⟨item, items, rfl⟩ := List.exists_cons_of_ne_nil someItem
        simp [CompareOperator.holds_null]
    | false => simp [← Value.noneEqual_eq_allUnequal_iff]
  · intro lower upper least greatest lowerEvaluated upperEvaluated
    have comparisons := Evaluation.all_bounds evaluated lowerEvaluated upperEvaluated
    rw [← Evaluation.filter] at comparisons
    exact (answerAlike_iff (Evaluation.filter_between evaluated lowerEvaluated upperEvaluated)
      comparisons).mpr rfl

/-- A quantity of five is in no range from six on. It is in the list of five and a text as it
equals the five, so that not being in the list is answered like being unequal to both. -/
theorem Filter.quantity_like_comparisons :
    let quantity : Expression := .path (.mk "quantity" .integer none none none)
    let row : PropertyRow := ⟨[("quantity", .integer 5)]⟩
    let items : List Value := [.integer 5, .string "five"]
    Evaluation.operand row quantity = .ok (.integer 5) ∧
      AnswerAlike row (.isIn quantity (.constant (.list items)))
        (.or (comparedWith quantity .equal items)) ∧
      AnswerAlike row (.isNotIn quantity (.constant (.list items)))
        (.and (comparedWith quantity .notEqual items)) ∧
      AnswerAlike row (.between quantity (.constant (.integer 6)) (.constant (.integer 9)))
        (.and [.compare quantity (.greater true) (.constant (.integer 6)),
          .compare quantity (.less true) (.constant (.integer 9))]) := by
  intro quantity row items
  have evaluated : Evaluation.operand row quantity = .ok (.integer 5) := rfl
  obtain ⟨memberships, negated, ranges⟩ := evaluate_like_comparisons evaluated
  exact ⟨evaluated, memberships items,
    (negated items (by simp [items])).mpr (.inr (.inl ⟨.integer 5, by simp [items], rfl⟩)),
    ranges _ _ _ _ rfl rfl⟩

/-- A quantity is not in a list of texts, but it is not unequal to a text either: the negated
membership in a list with items, none of them null, is not always answered like the conjunction of
the inequalities. -/
theorem Filter.notIn_unlike_inequalities :
    let quantity : Expression := .path (.mk "quantity" .integer none none none)
    let row : PropertyRow := ⟨[("quantity", .integer 5)]⟩
    let items : List Value := [.string "five"]
    Evaluation.operand row quantity = .ok (.integer 5) ∧ items ≠ [] ∧
      (∀ item ∈ items, item.isNull = false) ∧
      (Filter.isNotIn quantity (.constant (.list items))).evaluate row = .ok true ∧
      (Filter.and (comparedWith quantity .notEqual items)).evaluate row = .ok false ∧
      ¬ AnswerAlike row (.isNotIn quantity (.constant (.list items)))
        (.and (comparedWith quantity .notEqual items)) := by
  intro quantity row items
  have outside : (Filter.isNotIn quantity (.constant (.list items))).evaluate row = .ok true := rfl
  have unequal : (Filter.and (comparedWith quantity .notEqual items)).evaluate row =
      .ok false := rfl
  exact ⟨rfl, by simp [items], by simp [items, Value.isNull], outside, unequal,
    fun alike => Bool.noConfusion ((answerAlike_iff outside unequal).mp alike)⟩

end ObjectQuery
