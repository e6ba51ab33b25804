import ObjectQuery.Dialect
import ObjectQuery.Proofs.Parameters.Scanning
import ObjectQuery.Proofs.Spelling

/-!
# Literals and calls under a scan

A literal that is written into a statement refers to no parameter: numbers are digits with
a sign or a point, and everything else that a host chooses stands between quotes. Only a
decimal is written as the host gave it. A call adds nothing to what its argument reads.
-/

namespace ObjectQuery
namespace Text

variable {marker : Char} {text : String}

theorem isPlainCharacter_of_isDigit {character : Char} (digit : character.isDigit = true) :
    isPlainCharacter character = true := by
  simp [isPlainCharacter, isNameCharacter_of_isDigit digit]

theorem plain_integer (distinct : Distinct marker) (number : Int) :
    Plain marker (toString number) := by
  refine plain_of_all distinct ?_
  have minus : isPlainCharacter '-' = true := by decide
  rw [Number.toList_toString, List.all_append,
    Number.all_toDigits isPlainCharacter_of_isDigit, Bool.and_true]
  split <;> simp [minus]

/-- The whole part and the fraction are made of digits. -/
theorem isDigit_of_mem_positional (decimal : Decimal) :
    (∀ character ∈ decimal.positional.1, character.isDigit = true) ∧
      ∀ character ∈ decimal.positional.2, character.isDigit = true := by
  have digits : ∀ character ∈ decimal.digitCharacters, character.isDigit = true :=
    fun character member => Number.isDigit_of_mem_toDigits member
  have zero : '0'.isDigit = true := by decide
  have zeros : ∀ count, ∀ character ∈ List.replicate count '0', character.isDigit = true := by
    intro count character member
    rw [List.eq_of_mem_replicate member]
    exact zero
  simp only [Decimal.positional]
  split
  · refine ⟨fun character member => ?_, by simp⟩
    rcases List.mem_append.mp member with inDigits | inZeros
    · exact digits character inDigits
    · exact zeros _ character inZeros
  · split
    · exact ⟨fun character member => digits character (List.mem_of_mem_take member),
        fun character member => digits character (List.mem_of_mem_drop member)⟩
    · refine ⟨by simp [zero], fun character member => ?_⟩
      rcases List.mem_append.mp member with inZeros | inDigits
      · exact zeros _ character inZeros
      · exact digits character inDigits

/-- There are digits before the point. -/
theorem positional_ne_nil (decimal : Decimal) : decimal.positional.1 ≠ [] := by
  have digits : decimal.digitCharacters ≠ [] := Nat.toDigits_ne_nil
  have several : 0 < decimal.digitCharacters.length := List.length_pos_iff.mpr digits
  simp only [Decimal.positional]
  split
  · simp [digits]
  · split
    · next fewer =>
        intro empty
        have length := congrArg List.length empty
        simp only [List.length_take, List.length_nil] at length
        omega
    · simp

/-- The plain form is digits with a point before the fraction, if there is one. -/
theorem plainDigits_eq (decimal : Decimal) :
    Binary64.plainDigits decimal = decimal.positional.1 ++
      if decimal.positional.2 = [] then [] else '.' :: decimal.positional.2 := by
  unfold Binary64.plainDigits
  split
  · next whole equal => simp [equal]
  · next whole fraction visible equal =>
      have shown : fraction ≠ [] := visible
      simp [equal, shown]

/-- The plain form of a number is made of digits and points. -/
theorem isDigit_or_point_of_mem_plainDigits
    {decimal : Decimal}
    {character : Char}
    (member : character ∈ Binary64.plainDigits decimal) :
    character.isDigit = true ∨ character = '.' := by
  obtain ⟨whole, fraction⟩ := isDigit_of_mem_positional decimal
  rw [plainDigits_eq] at member
  rcases List.mem_append.mp member with inWhole | inFraction
  · exact .inl (whole character inWhole)
  · split at inFraction
    · simp at inFraction
    · rcases List.mem_cons.mp inFraction with point | inFraction
      · exact .inr point
      · exact .inl (fraction character inFraction)

theorem all_plainDigits (decimal : Decimal) :
    (Binary64.plainDigits decimal).all isPlainCharacter = true := by
  rw [List.all_eq_true]
  intro character member
  rcases isDigit_or_point_of_mem_plainDigits member with digit | rfl
  · exact isPlainCharacter_of_isDigit digit
  · decide

theorem plain_float
    (distinct : Distinct marker)
    {number : Binary64}
    (finite : number.isFinite = true) :
    Plain marker (Dialect.floatLiteral number) := by
  have number_plain : Plain marker number.toPlain := by
    refine plain_of_all distinct ?_
    have notNaN : number.isNaN = false := by
      simp only [Binary64.isFinite, bne_iff_ne] at finite
      simp [Binary64.isNaN, finite]
    have minus : isPlainCharacter '-' = true := by decide
    simp only [Binary64.toPlain, Binary64.layout, notNaN, finite, if_true, Bool.false_eq_true,
      if_false, String.toList_ofList, List.all_append, all_plainDigits]
    split <;> simp [minus]
  simp only [Dialect.floatLiteral]
  split
  · exact number_plain
  · exact number_plain.append (plain_of_all distinct (by decide))

/-! ## Quoted literals -/

/-- No quote occurs in the text. -/
def Unquoted (text : String) : Prop :=
  quoteMark ∉ text.toList

instance (text : String) : Decidable (Unquoted text) :=
  inferInstanceAs (Decidable (quoteMark ∉ text.toList))

@[simp] theorem unquoted_append_iff (left right : String) :
    Unquoted (left ++ right) ↔ Unquoted left ∧ Unquoted right := by
  simp [Unquoted]

theorem doubleQuotes_of_unquoted {characters : List Char} (unquoted : quoteMark ∉ characters) :
    doubleQuotes characters = characters := by
  induction characters with
  | nil => rfl
  | cons character characters inductionHypothesis =>
      simp only [List.mem_cons, not_or] at unquoted
      simp [doubleQuotes, Ne.symm unquoted.1, inductionHypothesis unquoted.2]

/-- The literal of a text without quotes is the text between quotes. -/
theorem quote_of_unquoted (unquoted : Unquoted text) : quote text = "'" ++ text ++ "'" := by
  apply String.toList_inj.mp
  simp only [quote, String.toList_ofList, doubleQuotes_of_unquoted unquoted, String.toList_append]
  rfl

@[simp] theorem unquoted_padded (width number : Nat) :
    Unquoted (Calendar.padded width number) := by
  intro member
  exact absurd (Calendar.isDigit_of_mem_padded _ _ _ member) (by decide)

theorem unquoted_date (day : Date) : Unquoted day.toText := by
  have dash : Unquoted "-" := by decide
  have year : Unquoted (Calendar.yearText day.year) := by
    have plus : Unquoted "+" := by decide
    simp only [Calendar.yearText]
    split
    · exact unquoted_padded _ _
    · split <;> simp [dash, plus]
  simp [Date.toText, dash, year]

theorem unquoted_clock (time : TimeOfDay) : Unquoted time.toClockText := by
  have colon : Unquoted ":" := by decide
  simp [TimeOfDay.toClockText, colon]

theorem unquoted_dateTime (moment : DateTime) : Unquoted moment.toText := by
  have blank : Unquoted " " := by decide
  have fraction : Unquoted (Calendar.fractionText moment.time.shownNanosecond) := by
    have point : Unquoted "." := by decide
    have empty : Unquoted "" := by decide
    simp only [Calendar.fractionText]
    split
    · exact empty
    · split
      · simp [point]
      · split <;> simp [point]
  simp [DateTime.toText, DateTime.toTextWith, TimeOfDay.toText, unquoted_date, unquoted_clock,
    fraction, blank]

/-- The closing brace may be the marker; no name follows it. -/
theorem reads_temporalLiteral
    (distinct : Distinct marker)
    {word : String}
    (words : word.toList.all isPlainCharacter = true)
    (unquoted : Unquoted text) :
    Reads marker (Dialect.temporalLiteral word text) [] := by
  have pieces : Dialect.temporalLiteral word text =
      ("\x7b" ++ word ++ " " ++ quote text) ++ String.singleton '}' := by
    rw [quote_of_unquoted unquoted]
    apply String.toList_inj.mp
    simp [Dialect.temporalLiteral]
  have opening : Plain marker ("\x7b" ++ word ++ " ") :=
    ((plain_of_all distinct (by decide)).append (plain_of_all distinct words)).append
      (plain_of_all distinct (by decide))
  rw [pieces]
  exact (opening.append (plain_quote text)).before
    (reads_sign (by decide) (by decide) (by decide))

/-- A literal other than a decimal refers to no parameter. -/
theorem reads_literal
    (distinct : Distinct marker)
    {dialect : Dialect}
    {value : Value}
    (noDecimal : ∀ digits, value ≠ .decimal digits)
    (written : dialect.literalText value = .ok text) :
    Reads marker text [] := by
  have word : ∀ {word : String}, word.toList.all isPlainCharacter = true →
      Reads marker word [] := fun all => (plain_of_all distinct all).reads
  cases value with
  | null => cases written; exact word (by decide)
  | boolean value => cases value <;> cases written <;> exact word (by decide)
  | integer number => cases written; exact (plain_integer distinct _).reads
  | decimal digits => exact absurd rfl (noDecimal digits)
  | string text => cases written; exact (plain_quote text).reads
  | date day => cases written; exact reads_temporalLiteral distinct (by decide) (unquoted_date day)
  | time clock =>
      cases written
      exact reads_temporalLiteral distinct (by decide) (unquoted_clock clock)
  | dateTime moment =>
      cases written
      exact reads_temporalLiteral distinct (by decide) (unquoted_dateTime moment)
  | float number =>
      simp only [Dialect.literalText] at written
      split at written
      · next finite =>
          cases written
          exact (plain_float distinct finite).reads
      · simp at written
  | enum name => simp [Dialect.literalText] at written
  | list items => simp [Dialect.literalText] at written

/-! ## Calls -/

/-- The general call quotes the name of its function. -/
theorem generalCall_eq {name : String} (unquoted : Unquoted name) :
    "FUNCTION('" ++ name ++ "', " = "FUNCTION" ++ "(" ++ (quote name ++ ", ") := by
  rw [quote_of_unquoted unquoted]
  apply String.toList_inj.mp
  simp

/-- What a call writes before its argument leaves one parenthesis open. -/
theorem opening_call (distinct : Distinct marker) (platform : Platform) (kind : FunctionKind) :
    Opening marker (kind.opening platform) := by
  have plain : ∀ {word : String}, word.toList.all isPlainCharacter = true →
      Plain marker word := plain_of_all distinct
  have call : ∀ word : String, word.toList.all isPlainCharacter = true →
      Opening marker (word ++ "(") := fun _ all => (plain all).opening distinct
  have datePart : ∀ part : String, part.toList.all isPlainCharacter = true →
      (Text.asciiLower part).toList.all isPlainCharacter = true → Unquoted part →
      Opening marker (FunctionKind.opening.datePart platform part) := by
    intro part all lower unquoted
    cases platform with
    | hibernate => exact call _ lower
    | dataNucleus => exact call _ all
    | openJpa =>
        rw [FunctionKind.opening.datePart, generalCall_eq unquoted]
        exact (call "FUNCTION" (by decide)).andThen
          ((plain_quote part).append (plain (by decide)))
    | eclipseLink | unknown =>
        have pieces : "EXTRACT(" ++ part ++ " FROM " = "EXTRACT" ++ "(" ++ (part ++ " FROM ") := by
          apply String.toList_inj.mp
          simp
        rw [FunctionKind.opening.datePart, pieces]
        exact (call "EXTRACT" (by decide)).andThen ((plain all).append (plain (by decide)))
  cases kind with
  | year | month | day | hour => exact datePart _ (by decide) (by decide) (by decide)
  | _ => exact call _ (by decide)

theorem plain_word (distinct : Distinct marker) (kind : FunctionKind) :
    Plain marker kind.word := by
  refine plain_of_all distinct ?_
  cases kind <;> decide

end Text
end ObjectQuery
