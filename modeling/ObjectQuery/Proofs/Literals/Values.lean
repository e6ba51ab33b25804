import ObjectQuery.Proofs.Literals.Scanning

/-!
# Values told apart by their literals

A literal is written so that the value can be read off it again: an integer by its digits, a text
between quotes, a date and a point in time by their parts. A time of day is written without the
fraction of its second, and two times within one second have the same literal. A leap second that
does not follow a fifty-ninth second has the literal of the second after it.
-/

namespace ObjectQuery

/-! ## Texts of dates and times -/

theorem Date.toText_injective : Function.Injective Date.toText := by
  intro day day' same
  have read := Date.ofText?_toText day
  rw [same, Date.ofText?_toText] at read
  exact (Option.some.inj read).symm

/-- The date ends at the blank, and the rest is the time of day. -/
theorem DateTime.toText_eq_iff {moment moment' : DateTime} :
    moment.toText = moment'.toText ↔ moment.asWritten = moment'.asWritten := by
  have characters (moment : DateTime) : moment.toText.toList =
      moment.date.toText.toList ++ ' ' :: moment.time.toText.toList := by
    simp [DateTime.toText, DateTime.toTextWith]
  rw [DateTime.asWritten, DateTime.asWritten, DateTime.mk.injEq, ← TimeOfDay.toText_eq_iff,
    ← String.toList_inj, characters, characters]
  constructor
  · intro same
    have read := @Calendar.date?_toText (' ' :: moment.time.toText.toList) moment.date
    rw [same, Calendar.date?_toText, Option.some.injEq, Prod.mk.injEq, List.cons_inj_right,
      String.toList_inj] at read
    exact ⟨read.1.symm, read.2.symm⟩
  · rintro ⟨date, time⟩
    rw [date, time]

/-- The time of day at the start of its second, or of its leap second. -/
def TimeOfDay.wholeSecond (clock : TimeOfDay) : TimeOfDay :=
  { clock with
    nanosecond := clock.nanosecond / 1000000000 * 1000000000
    nanosecondInRange := Nat.lt_of_le_of_lt (Nat.div_mul_le_self _ _) clock.nanosecondInRange }

theorem TimeOfDay.toClockText_eq_iff {clock clock' : TimeOfDay} :
    clock.toClockText = clock'.toClockText ↔
      clock.wholeSecond.asWritten = clock'.wholeSecond.asWritten := by
  have texts (clock : TimeOfDay) : clock.toClockText = clock.wholeSecond.toText := by
    simp [toText, toClockText, wholeSecond, shownSecond, shownNanosecond, Calendar.fractionText]
  rw [texts, texts, toText_eq_iff]

/-! ## Values of one kind -/

namespace Value

/-- Two values of one kind whose values all have literals. Floating point numbers, of which only
the finite ones have one, are left out. -/
inductive SameKind : Value → Value → Prop
  | null : SameKind .null .null
  | boolean (truth truth' : Bool) : SameKind (.boolean truth) (.boolean truth')
  | integer (number number' : Int64) : SameKind (.integer number) (.integer number')
  | decimal (digits digits' : String) : SameKind (.decimal digits) (.decimal digits')
  | string (text text' : String) : SameKind (.string text) (.string text')
  | date (day day' : Date) : SameKind (.date day) (.date day')
  | time (clock clock' : TimeOfDay) : SameKind (.time clock) (.time clock')
  | dateTime (moment moment' : DateTime) : SameKind (.dateTime moment) (.dateTime moment')

end Value

namespace Dialect

theorem temporalLiteral_inj {word content content' : String} :
    temporalLiteral word content = temporalLiteral word content' ↔ content = content' := by
  simp [temporalLiteral, ← String.toList_inj]

variable {value value' : Value}

/-- Two values of one kind have literals, which differ if the values do. Only two times of day
within one second share a literal, and two points in time that differ in nothing but whether the
second is a leap second or the one after it. -/
theorem literalText_eq_iff (dialect : Dialect) (sameKind : value.SameKind value') :
    ∃ literal literal', dialect.literalText value = .ok literal ∧
      dialect.literalText value' = .ok literal' ∧
      (literal = literal' ↔ value = value' ∨
        (∃ clock clock' : TimeOfDay, value = .time clock ∧ value' = .time clock' ∧
          clock.wholeSecond.asWritten = clock'.wholeSecond.asWritten) ∨
        ∃ moment moment' : DateTime, value = .dateTime moment ∧ value' = .dateTime moment' ∧
          moment.asWritten = moment'.asWritten) := by
  cases sameKind with
  | null => exact ⟨_, _, rfl, rfl, by simp⟩
  | boolean truth truth' =>
      cases truth <;> cases truth' <;> exact ⟨_, _, rfl, rfl, by simp⟩
  | integer number number' => exact ⟨_, _, rfl, rfl, by simp [Int64.toInt_inj]⟩
  | decimal digits digits' => exact ⟨_, _, rfl, rfl, by simp⟩
  | string text text' => exact ⟨_, _, rfl, rfl, by simp [Text.quote_injective.eq_iff]⟩
  | date day day' =>
      exact ⟨_, _, rfl, rfl, by simp [temporalLiteral_inj, Date.toText_injective.eq_iff]⟩
  | time clock clock' =>
      refine ⟨_, _, rfl, rfl, ?_⟩
      rw [temporalLiteral_inj, TimeOfDay.toClockText_eq_iff]
      constructor
      · exact fun same => .inr (.inl ⟨clock, clock', rfl, rfl, same⟩)
      · rintro (⟨⟨⟩⟩ | ⟨_, _, ⟨⟩, ⟨⟩, same⟩ | ⟨_, _, ⟨⟩, -⟩)
        · rfl
        · exact same
  | dateTime moment moment' =>
      refine ⟨_, _, rfl, rfl, ?_⟩
      rw [temporalLiteral_inj, DateTime.toText_eq_iff]
      constructor
      · exact fun same => .inr (.inr ⟨moment, moment', rfl, rfl, same⟩)
      · rintro (⟨⟨⟩⟩ | ⟨_, _, ⟨⟩, -⟩ | ⟨_, _, ⟨⟩, ⟨⟩, same⟩)
        · rfl
        · exact same

/-- Half past ten and half a second later have the same literal as times of day, and another one
as points in time. Seven seconds past, the middle of a leap second has both literals of the middle
of the second that follows. -/
theorem halfPastTen_inlined :
    let clock : TimeOfDay := ⟨10, 30, 0, 0, by decide, by decide, by decide, by decide⟩
    let later : TimeOfDay := ⟨10, 30, 0, 500000000, by decide, by decide, by decide, by decide⟩
    let leap : TimeOfDay := ⟨10, 30, 7, 1500000000, by decide, by decide, by decide, by decide⟩
    let eighth : TimeOfDay := ⟨10, 30, 8, 500000000, by decide, by decide, by decide, by decide⟩
    let day : Date := ⟨2024, 5, 6, by decide, by decide, by decide⟩
    let dialect := Dialect.standard .hibernate
    Value.time clock ≠ .time later ∧
      dialect.literalText (.time clock) = dialect.literalText (.time later) ∧
      dialect.literalText (.dateTime ⟨day, clock⟩) ≠
        dialect.literalText (.dateTime ⟨day, later⟩) ∧
      leap ≠ eighth ∧
      dialect.literalText (.time leap) = dialect.literalText (.time eighth) ∧
      dialect.literalText (.dateTime ⟨day, leap⟩) =
        dialect.literalText (.dateTime ⟨day, eighth⟩) := by
  intro clock later leap eighth day dialect
  have unlike : clock ≠ later := by decide
  have unlike' : (⟨day, clock⟩ : DateTime).asWritten ≠ (⟨day, later⟩ : DateTime).asWritten := by
    decide
  obtain ⟨_, _, written, written', exactly⟩ := literalText_eq_iff dialect (.time clock later)
  obtain ⟨_, _, dated, dated', apart⟩ :=
    literalText_eq_iff dialect (.dateTime ⟨day, clock⟩ ⟨day, later⟩)
  obtain ⟨_, _, shown, shown', alike⟩ := literalText_eq_iff dialect (.time leap eighth)
  obtain ⟨_, _, stamped, stamped', together⟩ :=
    literalText_eq_iff dialect (.dateTime ⟨day, leap⟩ ⟨day, eighth⟩)
  refine ⟨by simpa using unlike, ?_, fun same => ?_, by decide, ?_, ?_⟩
  · rw [written, written', exactly.mpr (.inr (.inl ⟨clock, later, rfl, rfl, by decide⟩))]
  · rw [dated, dated', Except.ok.injEq, apart] at same
    simp [unlike, unlike'] at same
  · rw [shown, shown', alike.mpr (.inr (.inl ⟨leap, eighth, rfl, rfl, by decide⟩))]
  · rw [stamped, stamped',
      together.mpr (.inr (.inr ⟨⟨day, leap⟩, ⟨day, eighth⟩, rfl, rfl, by decide⟩))]

end Dialect
end ObjectQuery
