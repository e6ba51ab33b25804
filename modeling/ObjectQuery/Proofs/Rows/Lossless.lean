import ObjectQuery.Proofs.Rows.Coercion

/-!
# What coercions lose

A value that is taken to a type and back to its own is the same value again, unless it is a
point in time that was taken for a date, or a decimal that was taken for an integer. Of the
first only the date is left, of the second only the number: it comes back in its shortest
spelling. Floating point numbers are left out, on the way and at its ends.
-/

namespace ObjectQuery

/-! ## Integers and their texts -/

namespace Number

/-- There is no sign before the digits of a number. -/
theorem takeSign_toDigits (number : Nat) :
    takeSign (Nat.toDigits 10 number) = (false, Nat.toDigits 10 number) := by
  have allDigits := all_toDigits id number
  unfold takeSign
  split
  · next rest digits => simp [digits] at allDigits
  · next rest digits => simp [digits] at allDigits
  · rfl

/-- The digits of a number, behind a sign or none, are read as the number. -/
theorem integer?_of_takeSign
    {text : String}
    {negative : Bool}
    {number : Nat}
    (signed : takeSign text.toList = (negative, Nat.toDigits 10 number)) :
    integer? text = some (if negative then -(number : Int) else number) := by
  have value : ofDigits (Nat.toDigits 10 number) = number := Nat.ofDigitChars_ten_toDigits
  simp only [integer?, signed, all_toDigits id, value]
  simp [Nat.toDigits_ne_nil]

/-- An integer is read off its own text. -/
theorem integer?_toString (number : Int) : integer? (toString number) = some number := by
  have signed : takeSign (toString number).toList =
      (decide (number < 0), Nat.toDigits 10 number.natAbs) := by
    rw [toList_toString]
    split
    · next negative => simp [takeSign, negative]
    · next positive => simp [takeSign_toDigits, positive]
  rw [integer?_of_takeSign signed, Option.some.injEq]
  simp only [decide_eq_true_eq]
  split <;> omega

/-- An integer of sixty-four bits is read off its own text. -/
theorem int64?_toString (number : Int64) : int64? (toString number.toInt) = some number := by
  have fits : Int64.minValue.toInt ≤ number.toInt ∧ number.toInt ≤ Int64.maxValue.toInt :=
    ⟨Int64.minValue_le_toInt number, Int64.toInt_le number⟩
  rw [int64?, integer?_toString, Option.bind_some, int64OfInt?, if_pos fits, Int64.ofInt_toInt]

end Number

/-! ## There and back -/

namespace Value

variable {expected : ValueType} {value coerced returned : Value}

/-- How a value that is no floating point number changes its form. -/
inductive Recast : Value → ValueType → Value → Prop
  | same {value : Value} {expected : ValueType} (fits : value.Fits expected) :
      Recast value expected value
  | truth (number : Int64) (truth : Bool) : Recast (.integer number) .boolean (.boolean truth)
  | digits (number : Int64) :
      Recast (.integer number) .decimal (.decimal (toString number.toInt))
  | number {digits : String} {number : Int64} (read : Number.int64? digits = some number) :
      Recast (.decimal digits) .integer (.integer number)
  | text (name : String) : Recast (.enum name) .string (.string name)
  | constant (text enumeration : String) : Recast (.string text) (.enum enumeration) (.enum text)
  | start (day : Date) : Recast (.date day) .dateTime (.dateTime (DateTime.startOf day))
  | day (moment : DateTime) : Recast (.dateTime moment) .date (.date moment.date)
  | clock (moment : DateTime) : Recast (.dateTime moment) .time (.time moment.time)

theorem recast_of_coerce?
    (noFloat : value.valueType ≠ .float)
    (notToFloat : expected ≠ .float)
    (taken : value.coerce? expected = some coerced) :
    Recast value expected coerced := by
  unfold coerce? at taken
  split at taken
  case h_6 number =>
    split at taken
    · cases taken
      exact .truth number false
    · split at taken
      · cases taken
        exact .truth number true
      · cases taken
  case h_7 digits =>
    obtain ⟨number, read, rfl⟩ := Option.map_eq_some_iff.mp taken
    exact .number read
  -- The rest is out of the question, keeps the value, changes its form, or gives nothing.
  all_goals first
    | exact absurd rfl noFloat
    | exact absurd rfl notToFloat
    | cases taken; exact .same (.inl rfl)
    | cases taken; exact .same (.inr (.inl rfl))
    | cases taken; exact .same (.inr (.inr rfl))
    | cases taken; constructor
    | cases taken

/-- What is left of a value that is taken to a type and back. -/
def kept (expected : ValueType) (value : Value) : Value :=
  match value, expected with
  | .dateTime moment, .date => .dateTime (DateTime.startOf moment.date)
  | .decimal digits, .integer =>
      ((Number.int64? digits).map fun number => .decimal (toString number.toInt)).getD value
  | found, _ => found

/-- The type takes the value for no less than it is: a point in time for a date only at the start
of the day, a decimal for an integer only if it is spelled like one. -/
def SparedBy (expected : ValueType) : Value → Prop
  | .dateTime moment => expected = .date → moment = DateTime.startOf moment.date
  | .decimal digits => expected = .integer → ∃ number : Int64, digits = toString number.toInt
  | _ => True

/-- A value that is taken for what it is comes back as it was. -/
theorem eq_of_back (back : value.coerce? value.valueType = some returned) : returned = value := by
  rw [coerce?_eq_self_iff.mpr (fits_valueType value)] at back
  exact (Option.some.inj back).symm

theorem kept_of_fits (fits : value.Fits expected) : value.kept expected = value := by
  unfold kept
  split
  · simp [Fits, ValueType.takesAll, valueType, ValueType.shown] at fits
  · simp [Fits, ValueType.takesAll, valueType, ValueType.shown] at fits
  · rfl

/-- What comes back is what is kept. -/
theorem eq_kept_of_back
    (recast : Recast value expected coerced)
    (back : coerced.coerce? value.valueType = some returned) :
    returned = value.kept expected := by
  cases recast with
  | same fits => rw [eq_of_back back, kept_of_fits fits]
  | truth number truth => cases back
  | digits number =>
      have read : (Value.decimal (toString number.toInt)).coerce? .integer =
          some (.integer number) := by
        rw [coerce?, Number.int64?_toString, Option.map_some]
      exact (Option.some.inj (read.symm.trans back)).symm
  | number read =>
      cases back
      simp [kept, read]
  | text name => cases back; rfl
  | constant text enumeration => cases back; rfl
  | start day => cases back; rfl
  | day moment => cases back; rfl
  | clock moment => cases back

theorem kept_eq_self_iff (taken : value.coerce? expected = some coerced) :
    value.kept expected = value ↔ value.SparedBy expected := by
  unfold kept
  split
  · simp [SparedBy, eq_comm]
  · next digits =>
      obtain ⟨number, read, -⟩ := Option.map_eq_some_iff.mp taken
      simp only [read, Option.map_some, Option.getD_some, SparedBy, Value.decimal.injEq,
        true_implies]
      constructor
      · intro same
        exact ⟨number, same.symm⟩
      · rintro ⟨other, rfl⟩
        rw [Number.int64?_toString, Option.some.injEq] at read
        rw [read]
  · next notDay notNumber =>
      cases value with
      | dateTime moment =>
          simpa [SparedBy] using fun isDate => (notDay moment rfl isDate).elim
      | decimal digits =>
          simpa [SparedBy] using fun isInteger => (notNumber digits rfl isInteger).elim
      | _ => simp [SparedBy]

/--
A value that is no floating point number, taken to a type other than that of floating point
numbers and back to its own type, is the value again exactly where the type spares it. A point in
time comes back from a date as the start of its day, and a decimal from an integer in the spelling
of the number; all other values come back unchanged.
-/
theorem coerce_back_iff
    (noFloat : value.valueType ≠ .float)
    (notToFloat : expected ≠ .float)
    (taken : value.coerce expected = .ok coerced)
    (back : coerced.coerce value.valueType = .ok returned) :
    returned = value.kept expected ∧ (returned = value ↔ value.SparedBy expected) := by
  rw [coerce_eq_ok_iff] at taken back
  have keeps := eq_kept_of_back (recast_of_coerce? noFloat notToFloat taken) back
  exact ⟨keeps, keeps ▸ kept_eq_self_iff taken⟩

/-- Half past ten is lost where a point in time is taken for a date, and leading zeros where a
decimal is taken for an integer. -/
theorem halfPastTen_not_back :
    let moment : DateTime :=
      ⟨⟨2024, 5, 6, by decide, by decide, by decide⟩,
        ⟨10, 30, 0, 0, by decide, by decide, by decide, by decide⟩⟩
    (Value.dateTime moment).coerce .date = .ok (.date moment.date) ∧
      (Value.date moment.date).coerce .dateTime = .ok (.dateTime (DateTime.startOf moment.date)) ∧
      Value.dateTime (DateTime.startOf moment.date) ≠ .dateTime moment ∧
      (Value.decimal "007").coerce .integer = .ok (.integer 7) ∧
      (Value.integer 7).coerce .decimal = .ok (.decimal "7") := by
  intro moment
  have taken : (Value.dateTime moment).coerce .date = .ok (.date moment.date) := rfl
  have back : (Value.date moment.date).coerce (Value.dateTime moment).valueType =
      .ok (.dateTime (DateTime.startOf moment.date)) := rfl
  have noFloat : (Value.dateTime moment).valueType ≠ .float := by simp [valueType]
  refine ⟨taken, back, fun same => ?_, rfl, rfl⟩
  have spared := (coerce_back_iff noFloat (by simp) taken back).2.mp same rfl
  exact absurd spared (by decide)

end Value
end ObjectQuery
