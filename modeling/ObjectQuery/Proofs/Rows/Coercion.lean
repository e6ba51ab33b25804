import ObjectQuery.Row.Basic

/-!
# Coerced values fit

A value fits a type if it is null, if nothing can be told of the values of the type, or if its
own type shows to be that type. What a coercion gives fits the type it was taken to, and the
values that fit a type are exactly those that a coercion to it leaves as they are.
-/

namespace ObjectQuery

namespace ValueType

/-- Types that every value is taken for: unknown ones, entities, and lists. -/
def takesAll : ValueType → Bool
  | .any | .entity _ | .list _ => true
  | _ => false

/-- The type as far as a value shows it: a constant does not tell its enumeration. -/
def shown : ValueType → ValueType
  | .enum _ => .enum ""
  | other => other

end ValueType

namespace Value

/-- Null, or a value of the type. -/
def Fits (expected : ValueType) (value : Value) : Prop :=
  value = .null ∨ expected.takesAll = true ∨ value.valueType = expected.shown

variable {expected : ValueType} {value coerced : Value}

theorem fits_valueType (value : Value) : value.Fits value.valueType := by
  cases value with
  | null => exact .inl rfl
  | list items => cases items <;> exact .inr (.inl rfl)
  | _ => exact .inr (.inr rfl)

/-- What a coercion gives fits the type. -/
theorem fits_of_coerce? (taken : value.coerce? expected = some coerced) :
    coerced.Fits expected := by
  unfold coerce? at taken
  split at taken
  -- An integer is taken for a truth value only if it is one of two.
  case h_6 number =>
    split at taken
    · cases taken
      exact .inr (.inr rfl)
    · split at taken
      · cases taken
        exact .inr (.inr rfl)
      · cases taken
  -- The rest gives null, the value itself, a value of the type, or nothing.
  all_goals first
    | cases taken; exact .inl rfl
    | cases taken; exact .inr (.inl rfl)
    | cases taken; exact .inr (.inr rfl)
    | obtain ⟨_, -, rfl⟩ := Option.map_eq_some_iff.mp taken; exact .inr (.inr rfl)
    | cases taken

/-- A value that fits is taken as it is. -/
theorem coerce?_eq_self_iff : value.coerce? expected = some value ↔ value.Fits expected := by
  refine ⟨fits_of_coerce?, fun fits => ?_⟩
  rcases fits with rfl | takesAll | shows
  · exact coerce?_null expected
  · cases expected with
    | any => cases value <;> rfl
    | entity name => cases value <;> rfl
    | list element => cases value <;> rfl
    | _ => simp [ValueType.takesAll] at takesAll
  · -- A type that shows in the value is the one type that takes the value as it is.
    cases value with
    | null => exact coerce?_null expected
    | list items =>
        cases items <;> cases expected <;> first
          | rfl
          | simp [valueType, ValueType.shown] at shows
    | _ =>
        cases expected <;> first
          | rfl
          | simp [valueType, ValueType.shown] at shows

theorem coerce_eq_ok_iff :
    value.coerce expected = .ok coerced ↔ value.coerce? expected = some coerced := by
  unfold coerce
  cases value.coerce? expected with
  | none => simp
  | some taken => simp

/-- What a coercion gives fits the type, and a second coercion changes nothing. -/
theorem fits_of_coerce (taken : value.coerce expected = .ok coerced) :
    coerced.Fits expected ∧ coerced.coerce expected = .ok coerced := by
  have fits := fits_of_coerce? (coerce_eq_ok_iff.mp taken)
  exact ⟨fits, coerce_eq_ok_iff.mpr (coerce?_eq_self_iff.mpr fits)⟩

end Value
end ObjectQuery
