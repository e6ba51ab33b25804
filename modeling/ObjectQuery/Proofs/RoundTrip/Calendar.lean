import Mathlib
import ObjectQuery.Calendar.Layout
import ObjectQuery.Calendar.Reader
import ObjectQuery.Text.Ascii

/-!
# Dates and times read back

Every date is read back from the text that writes it. So is every time and point in time, unless
it lies in a leap second after another second than the fifty-ninth: this is written, and read, as
the second that follows. A reader takes what was written from the front of a text and leaves the
rest as it is; a number of a fixed width ends after its digits, while a year with a sign and a
fraction end where no digit follows.
-/

namespace ObjectQuery
namespace Calendar

variable {rest : List Char}

/-! ## Digits -/

/-- A text that does not go on with a digit. -/
def EndsDigits (rest : List Char) : Prop :=
  ∀ first others, rest = first :: others → first.isDigit = false

theorem endsDigits_cons {first : Char} (noDigit : first.isDigit = false) (others : List Char) :
    EndsDigits (first :: others) := by
  rintro _ _ ⟨⟩
  exact noDigit

theorem takeWhile_isDigit_append
    {digits : List Char}
    (isDigits : ∀ digit ∈ digits, digit.isDigit = true)
    (ends : EndsDigits rest) :
    (digits ++ rest).takeWhile Char.isDigit = digits := by
  rw [List.takeWhile_append_of_pos isDigits]
  cases rest with
  | nil => simp
  | cons first others => simp [ends first others rfl]

theorem not_isBlankCharacter_of_isDigit {digit : Char} (isDigit : digit.isDigit = true) :
    Text.isBlankCharacter digit = false :=
  Text.digit_cases isDigit (by decide)

/-- Digits are not passed over as blanks. -/
theorem skipBlanks_digits
    {digits : List Char}
    (isDigits : ∀ digit ∈ digits, digit.isDigit = true)
    (some_digit : digits ≠ []) :
    skipBlanks (digits ++ rest) = digits ++ rest := by
  cases digits with
  | nil => exact absurd rfl some_digit
  | cons first others =>
      have first_digit := isDigits first List.mem_cons_self
      simp [skipBlanks, not_isBlankCharacter_of_isDigit first_digit]

/-! ## Padded numbers -/

section Padded

variable (width number : Nat)

@[simp] theorem padded_ne_empty : padded width number ≠ "" := by
  rw [ne_eq, ← String.toList_inj]
  simp [padded, Nat.toDigits_ne_nil]

theorem padded_ne_nil : (padded width number).toList ≠ [] := by
  simp

/-- A number can be seen. -/
theorem isBlank_padded : Text.isBlank (padded width number) = false := by
  obtain ⟨digit, member⟩ := List.exists_mem_of_ne_nil _ (padded_ne_nil width number)
  have visible := not_isBlankCharacter_of_isDigit (isDigit_of_mem_padded width number digit member)
  rw [Text.isBlank, List.all_eq_false]
  exact ⟨digit, member, by simp [visible]⟩

/-- Leading zeros do not change the value of the digits. -/
theorem ofDigits_padded : Number.ofDigits (padded width number).toList = number := by
  rw [show Number.ofDigits (padded width number).toList =
    Nat.ofDigitChars 10 (padded width number).toList 0 from rfl]
  simp [padded, Nat.ofDigitChars_append, Nat.ofDigitChars_replicate_zero,
    Nat.ofDigitChars_ten_toDigits]

variable {width number}

theorem length_padded (positive : 0 < width) (bound : number < 10 ^ width) :
    (padded width number).toList.length = width := by
  have fits := (Nat.length_toDigits_le_iff (by decide : 1 < 10) positive).mpr bound
  simp [padded]
  omega

/-- A number that was padded is read back, whatever follows it. -/
theorem number?_padded (positive : 0 < width) (bound : number < 10 ^ width) :
    number? width ((padded width number).toList ++ rest) = some (number, rest) := by
  have isDigits := isDigit_of_mem_padded width number
  have some_digit := padded_ne_nil width number
  have length := length_padded positive bound
  have taken : ((padded width number).toList ++ rest).take width =
      (padded width number).toList := List.take_left' length
  have digits : (padded width number).toList.takeWhile Char.isDigit =
      (padded width number).toList := List.takeWhile_eq_self_iff.mpr isDigits
  simp only [number?, skipBlanks_digits isDigits some_digit, taken, digits,
    List.isEmpty_iff, some_digit, if_false, ofDigits_padded, List.drop_left]

end Padded

/-! ## The parts of dates and times -/

/-- A year with a sign is read back where no digit follows it. -/
theorem year?_signed (negative : Bool) (number : Nat) (ends : EndsDigits rest) :
    year? ((if negative then '-' else '+') :: ((padded 4 number).toList ++ rest)) =
      some (if negative then -(number : Int) else number, rest) := by
  have isDigits := isDigit_of_mem_padded 4 number
  have digits := takeWhile_isDigit_append isDigits ends
  have blanks : Text.isBlankCharacter '-' = false ∧ Text.isBlankCharacter '+' = false := by decide
  cases negative <;>
    simp [year?, skipBlanks, blanks, digits, ofDigits_padded]

/-- The year of a date is read back where no digit follows it. -/
theorem year?_yearText (year : Int) (ends : EndsDigits rest) :
    year? ((yearText year).toList ++ rest) = some (year, rest) := by
  unfold yearText
  split
  · next inRange =>
      obtain ⟨number, rfl⟩ := Int.eq_ofNat_of_zero_le inRange.1
      have bound : number < 10 ^ 4 := by omega
      have read := @number?_padded rest 4 number (by decide) bound
      have isDigits := isDigit_of_mem_padded 4 number
      have digits := @skipBlanks_digits rest _ isDigits (padded_ne_nil 4 number)
      obtain ⟨first, others, characters⟩ := List.exists_cons_of_ne_nil (padded_ne_nil 4 number)
      have digit : first.isDigit = true := isDigits first (by simp [characters])
      rw [Int.toNat_natCast, year?, digits]
      rw [characters, List.cons_append] at read ⊢
      split
      · next same =>
          obtain ⟨rfl, -⟩ := List.cons.inj same
          exact absurd digit (by decide)
      · next same =>
          obtain ⟨rfl, -⟩ := List.cons.inj same
          exact absurd digit (by decide)
      · simp [read]
  · next outside =>
      by_cases negative : year < 0
      · have read := year?_signed true year.natAbs ends
        simp only [if_true, Int.ofNat_natAbs_of_nonpos negative.le, neg_neg] at read
        simpa [negative] using read
      · have read := year?_signed false year.natAbs ends
        simp only [Bool.false_eq_true, if_false, Int.natAbs_of_nonneg (not_lt.mp negative)] at read
        simpa [negative] using read

theorem separator?_cons {mark : Char} (visible : Text.isBlankCharacter mark = false) :
    separator? mark (mark :: rest) = some rest := by
  simp [separator?, skipBlanks, visible]

theorem fraction?_padded {width number : Nat} (positive : 0 < width) (bound : number < 10 ^ width)
    (atMost : width ≤ 9) :
    fraction? ('.' :: (padded width number).toList) = some (number * 10 ^ (9 - width), []) := by
  have isDigits := isDigit_of_mem_padded width number
  have length := length_padded positive bound
  have all : (padded width number).toList.takeWhile Char.isDigit =
      (padded width number).toList := List.takeWhile_eq_self_iff.mpr isDigits
  have nothing : (padded width number).toList.dropWhile Char.isDigit = [] :=
    List.dropWhile_eq_nil_iff.mpr isDigits
  have kept : (padded width number).toList.take 9 = (padded width number).toList :=
    List.take_of_length_le (by omega)
  simp [fraction?, Number.takeDigits, all, nothing, nanoseconds, kept, length,
    ofDigits_padded]

/-- The fraction of a second is read back at the end of a text. -/
theorem fraction?_fractionText {nanosecond : Nat} (bound : nanosecond < 1000000000) :
    fraction? (fractionText nanosecond).toList = some (nanosecond, []) := by
  unfold fractionText
  split
  · next zero => simp [zero, fraction?]
  · split
    · next millis =>
        have read := @fraction?_padded 3 (nanosecond / 1000000) (by decide) (by omega) (by decide)
        have whole : nanosecond / 1000000 * 10 ^ (9 - 3) = nanosecond :=
          Nat.div_mul_cancel (Nat.dvd_of_mod_eq_zero millis)
        rw [whole] at read
        simpa using read
    · split
      · next micros =>
          have read := @fraction?_padded 6 (nanosecond / 1000) (by decide) (by omega) (by decide)
          have whole : nanosecond / 1000 * 10 ^ (9 - 6) = nanosecond :=
            Nat.div_mul_cancel (Nat.dvd_of_mod_eq_zero micros)
          rw [whole] at read
          simpa using read
      · have read := @fraction?_padded 9 nanosecond (by decide) bound (by decide)
        simpa using read

/-- A clock without its seconds is read back. -/
theorem clock?_padded {hour minute : Nat} (hours : hour < 24) (minutes : minute < 60) :
    clock? ((padded 2 hour).toList ++ ':' :: ((padded 2 minute).toList ++ rest)) =
      some (hour, minute, rest) := by
  have colon : Text.isBlankCharacter ':' = false := by decide
  simp [clock?, number?_padded (by decide : 0 < 2) (by omega : hour < 10 ^ 2),
    number?_padded (by decide : 0 < 2) (by omega : minute < 10 ^ 2), separator?_cons colon]

/-- Seconds with their fraction are read back at the end of a text. -/
theorem seconds?_text {second nanosecond : Nat} (seconds : second ≤ 60)
    (bound : nanosecond < 1000000000) :
    seconds? (':' :: ((padded 2 second).toList ++ (fractionText nanosecond).toList)) =
      some (second, nanosecond, []) := by
  have colon : Text.isBlankCharacter ':' = false := by decide
  simp [seconds?, number?_padded (by decide : 0 < 2) (by omega : second < 10 ^ 2),
    separator?_cons colon, fraction?_fractionText bound]

/-- A date is read back, whatever follows it. -/
theorem date?_toText (date : Date) : date? (date.toText.toList ++ rest) = some (date, rest) := by
  have dash : Text.isBlankCharacter '-' = false := by decide
  have month : date.month < 10 ^ 2 := by have := date.monthInRange; omega
  have day : date.day < 10 ^ 2 := by have := date.day_le; omega
  have ends : ∀ others, EndsDigits ('-' :: others) := endsDigits_cons (by decide)
  simp [date?, Date.toText, year?_yearText date.year (ends _), separator?_cons dash,
    number?_padded (by decide : 0 < 2) month, number?_padded (by decide : 0 < 2) day,
    Date.ofParts?_eq_some]

end Calendar

open Calendar

/-- A date is read back from its text. -/
theorem Date.ofText?_toText (date : Date) : Date.ofText? date.toText = some date := by
  have read := @date?_toText [] date
  rw [List.append_nil] at read
  rw [Date.ofText?, read]
  rfl

/-! ## Leap seconds -/

namespace TimeOfDay

/-- Whether a text can show the time: it lies in no leap second, or in one after a fifty-ninth
second. -/
def IsWritable (time : TimeOfDay) : Prop :=
  time.nanosecond < 1000000000 ∨ time.second = 59

instance (time : TimeOfDay) : Decidable time.IsWritable :=
  inferInstanceAs (Decidable (_ ∨ _))

/-- The time that the text of a time shows. -/
def asWritten (time : TimeOfDay) : TimeOfDay :=
  if leap : time.shownSecond = 60 then
    time
  else
    { time with
      second := time.shownSecond
      nanosecond := time.shownNanosecond
      secondInRange := Nat.lt_of_le_of_ne time.shownSecond_le leap
      nanosecondInRange := Nat.lt_trans time.shownNanosecond_lt (by decide) }

theorem shownSecond_eq_sixty_iff (time : TimeOfDay) :
    time.shownSecond = 60 ↔ time.second = 59 ∧ 1000000000 ≤ time.nanosecond := by
  have second := time.secondInRange
  have nanosecond := time.nanosecondInRange
  unfold shownSecond
  omega

/-- The parts that a text shows are those of the time that it shows. -/
theorem ofParts?_shown (time : TimeOfDay) :
    ofParts? time.hour time.minute time.shownSecond time.shownNanosecond =
      some time.asWritten := by
  have inRange : time.hour < 24 ∧ time.minute < 60 ∧ time.shownSecond ≤ 60 ∧
      time.shownNanosecond < 1000000000 :=
    ⟨time.hourInRange, time.minuteInRange, time.shownSecond_le, time.shownNanosecond_lt⟩
  rw [ofParts?, dif_pos inRange, asWritten]
  split
  · next leap =>
      -- only the fifty-ninth second can be followed by the sixtieth
      obtain ⟨second, nanosecond⟩ := time.shownSecond_eq_sixty_iff.mp leap
      have counted : 1000000000 + time.shownNanosecond = time.nanosecond := by
        have bound := time.nanosecondInRange
        unfold shownNanosecond
        omega
      exact congrArg some (TimeOfDay.ext rfl rfl second.symm counted)
  · rfl

/-- A text shows the time that it writes exactly if it can. -/
theorem asWritten_eq_iff (time : TimeOfDay) : time.asWritten = time ↔ time.IsWritable := by
  unfold asWritten
  split
  · next leap => exact iff_of_true rfl (.inr (time.shownSecond_eq_sixty_iff.mp leap).1)
  · next usual =>
      have late := (not_congr time.shownSecond_eq_sixty_iff).mp usual
      constructor
      · intro same
        have nanosecond : time.shownNanosecond = time.nanosecond :=
          congrArg TimeOfDay.nanosecond same
        exact .inl (nanosecond ▸ time.shownNanosecond_lt)
      · intro writable
        have early : time.nanosecond < 1000000000 := by
          rcases writable with early | fiftyNinth
          · exact early
          · omega
        have second : time.shownSecond = time.second := by
          rw [shownSecond, Nat.div_eq_of_lt early, Nat.add_zero]
        have nanosecond : time.shownNanosecond = time.nanosecond := Nat.mod_eq_of_lt early
        exact TimeOfDay.ext rfl rfl second nanosecond

theorem toList_toText (time : TimeOfDay) :
    time.toText.toList = (padded 2 time.hour).toList ++ ':' :: ((padded 2 time.minute).toList ++
      ':' :: ((padded 2 time.shownSecond).toList ++
        (fractionText time.shownNanosecond).toList)) := by
  simp [toText, toClockText]

/-- From the text of a time the time is read that it shows. -/
theorem ofText?_toText (time : TimeOfDay) : ofText? time.toText = some time.asWritten := by
  simp [ofText?, toList_toText, clock?_padded time.hourInRange time.minuteInRange,
    seconds?_text time.shownSecond_le time.shownNanosecond_lt, ofParts?_shown, atEnd, skipBlanks]

/-- The time that a text shows has that text. -/
theorem toText_asWritten (time : TimeOfDay) : time.asWritten.toText = time.toText := by
  unfold asWritten
  split
  · rfl
  · simp [toText, toClockText, shownSecond, shownNanosecond, Nat.div_eq_of_lt, Nat.mod_lt]

/-- Two times have one text exactly if it shows one time for both. -/
theorem toText_eq_iff {time time' : TimeOfDay} :
    time.toText = time'.toText ↔ time.asWritten = time'.asWritten := by
  constructor
  · intro same
    have read := ofText?_toText time
    rw [same, ofText?_toText] at read
    exact (Option.some.inj read).symm
  · intro same
    rw [← time.toText_asWritten, same, toText_asWritten]

end TimeOfDay

/-- The point in time that the text of a point in time shows. -/
def DateTime.asWritten (moment : DateTime) : DateTime :=
  ⟨moment.date, moment.time.asWritten⟩

/-- From the interchange text of a point in time the point in time is read that it shows. -/
theorem DateTime.ofText?_toInterchangeText (moment : DateTime) :
    DateTime.ofText? moment.toInterchangeText = some moment.asWritten := by
  have mark : Text.isBlankCharacter 'T' = false := by decide
  have text : moment.toInterchangeText.toList =
      moment.date.toText.toList ++ 'T' :: moment.time.toText.toList := by
    simp [DateTime.toInterchangeText, DateTime.toTextWith]
  simp [DateTime.ofText?, text, date?_toText, separator?_cons mark, TimeOfDay.toList_toText,
    clock?_padded moment.time.hourInRange moment.time.minuteInRange,
    seconds?_text moment.time.shownSecond_le moment.time.shownNanosecond_lt,
    TimeOfDay.ofParts?_shown, DateTime.asWritten, atEnd, skipBlanks]

end ObjectQuery
