import ObjectQuery.Proofs.Parameters.Literals
import ObjectQuery.Proofs.Phrases.Reading
import ObjectQuery.Proofs.Signs.Scanning

/-!
# Signs of literals and calls

A negative number shows a minus, and the literal of a date or a time the brace before its word.
Every other literal shows nothing, and so does what a call writes around its argument.
-/

namespace ObjectQuery

/-- The signs that a literal shows. -/
def Value.literalSigns : Value → List Sign
  | .integer number => Sign.minus.inFront (decide (number.toInt < 0))
  | .float number => Sign.minus.inFront number.isNegative
  | .date _ | .time _ | .dateTime _ => [.brace]
  | _ => []

namespace Text

variable {marker : Char} {text : String} {signs : List Sign}

theorem isNeutral_of_isDigit {character : Char} (digit : character.isDigit = true) :
    isNeutral character = true :=
  isNeutral_of_isNameCharacter (isNameCharacter_of_isDigit digit)

/-- A text whose first character is part of a name. -/
theorem not_apart_of_cons
    {first : Char}
    {rest : List Char}
    (characters : text.toList = first :: rest)
    (name : isNameCharacter first = true) :
    ¬ Apart text := by
  simp [Apart, Separated, characters, name]

theorem not_apart_of_digit
    {first : Char}
    {rest : List Char}
    (characters : text.toList = first :: rest)
    (digit : first.isDigit = true) :
    ¬ Apart text :=
  not_apart_of_cons characters (isNameCharacter_of_isDigit digit)

theorem not_apart_append {text' : String} (begins : ¬ Apart text) : ¬ Apart (text ++ text') := by
  unfold Apart at begins ⊢
  cases equal : text.toList with
  | nil => exact absurd (equal ▸ separated_nil) begins
  | cons first rest =>
      rw [equal] at begins
      simpa [Separated, equal] using begins

/-- A sign with something behind it that begins with a name. -/
theorem Shows.signed
    (shown : Shows marker text signs)
    (begins : ¬ Apart text)
    (sign : Sign) :
    Shows marker (String.singleton sign.character ++ text) (sign :: signs) := by
  intro rest separated
  have unquoted : sign.character ≠ quoteMark := by cases sign <;> decide
  rw [String.toList_append, List.append_assoc, String.toList_singleton, List.singleton_append,
    referencesFrom_sign unquoted, shown rest separated, separated_append_iff separated]
  simp [begins, @eq_comm _ marker, or_assoc]

/-- No name follows a closing sign. -/
theorem shows_closing {closing : Char} (unquoted : closing ≠ quoteMark) :
    Shows marker (String.singleton closing) [] := by
  intro rest separated
  rw [String.toList_singleton, List.singleton_append, referencesFrom_sign unquoted]
  simp [separated]

/-! ## Numbers -/

theorem digits_begin (number : Nat) : ¬ Apart (String.ofList (Nat.toDigits 10 number)) := by
  obtain ⟨first, rest, digits⟩ :=
    List.exists_cons_of_ne_nil (@Nat.toDigits_ne_nil number 10)
  have digit : first.isDigit = true :=
    Number.isDigit_of_mem_toDigits (digits ▸ List.mem_cons_self)
  exact not_apart_of_digit (by rw [String.toList_ofList, digits]) digit

theorem shows_integer (accepted : Accepted marker) (number : Int) :
    Shows marker (toString number) (Sign.minus.inFront (decide (number < 0))) := by
  have passes (number : Nat) : Passes marker (String.ofList (Nat.toDigits 10 number)) := by
    refine passes_of_neutral accepted ?_
    rw [String.toList_ofList]
    exact Number.all_toDigits isNeutral_of_isDigit number
  cases number with
  | ofNat number => exact (passes number).shows
  | negSucc number =>
      have digits : toString (Int.negSucc number) =
          String.singleton '-' ++ String.ofList (Nat.toDigits 10 (number + 1)) := rfl
      have negative : Int.negSucc number < 0 := Int.negSucc_lt_zero number
      rw [digits, Sign.inFront, if_pos (decide_eq_true negative)]
      exact (passes (number + 1)).shows.signed (digits_begin (number + 1)) .minus

/-- The plain form of a number without its sign, to which a point may be added. -/
theorem plainDigits_neutral
    (decimal : Decimal)
    {behind : String}
    (neutral : behind.toList.all isNeutral = true) :
    (String.ofList (Binary64.plainDigits decimal) ++ behind).toList.all isNeutral = true := by
  rw [String.toList_append, String.toList_ofList, List.all_append, neutral, Bool.and_true,
    List.all_eq_true]
  intro character member
  rcases isDigit_or_point_of_mem_plainDigits member with digit | rfl
  · exact isNeutral_of_isDigit digit
  · decide

theorem plainDigits_begin (decimal : Decimal) (behind : String) :
    ¬ Apart (String.ofList (Binary64.plainDigits decimal) ++ behind) := by
  obtain ⟨first, rest, whole⟩ := List.exists_cons_of_ne_nil (positional_ne_nil decimal)
  have digit : first.isDigit = true :=
    (isDigit_of_mem_positional decimal).1 first (whole ▸ List.mem_cons_self)
  have characters : (String.ofList (Binary64.plainDigits decimal)).toList =
      first :: (rest ++ if decimal.positional.2 = [] then [] else '.' :: decimal.positional.2) := by
    rw [String.toList_ofList, plainDigits_eq, whole, List.cons_append]
  exact not_apart_append (not_apart_of_digit characters digit)

theorem shows_float
    (accepted : Accepted marker)
    {number : Binary64}
    (finite : number.isFinite = true) :
    Shows marker (Dialect.floatLiteral number) (Sign.minus.inFront number.isNegative) := by
  have notNaN : number.isNaN = false := by
    simp only [Binary64.isFinite, bne_iff_ne] at finite
    simp [Binary64.isNaN, finite]
  have body (behind : String) (neutral : behind.toList.all isNeutral = true) :
      Shows marker (number.toPlain ++ behind) (Sign.minus.inFront number.isNegative) := by
    have digits := (passes_of_neutral accepted
      (plainDigits_neutral (Decimal.shortest number) neutral)).shows
    simp only [Binary64.toPlain, Binary64.layout, notNaN, finite, if_true, Bool.false_eq_true,
      if_false]
    cases number.isNegative with
    | false => simpa [Sign.inFront] using digits
    | true =>
        have signed := digits.signed (plainDigits_begin _ _) .minus
        have pieces : String.ofList (['-'] ++ Binary64.plainDigits (Decimal.shortest number)) ++
            behind = String.singleton '-' ++
              (String.ofList (Binary64.plainDigits (Decimal.shortest number)) ++ behind) := by
          apply String.toList_inj.mp
          simp
        rw [if_pos rfl, pieces]
        exact signed
  simp only [Dialect.floatLiteral]
  split
  · simpa using body "" (by decide)
  · exact body ".0" (by decide)

/-! ## Quoted literals -/

theorem shows_temporalLiteral
    (accepted : Accepted marker)
    {word : String}
    (neutral : word.toList.all isNeutral = true)
    (begins : ¬ Apart word)
    (unquoted : Unquoted text) :
    Shows marker (Dialect.temporalLiteral word text) [.brace] := by
  have pieces : Dialect.temporalLiteral word text =
      String.singleton '\x7b' ++ (word ++ (" " ++ quote text ++ String.singleton '}')) := by
    rw [quote_of_unquoted unquoted]
    apply String.toList_inj.mp
    simp [Dialect.temporalLiteral]
  have content : Passes marker (" " ++ quote text) :=
    (passes_of_neutral accepted (by decide)).append (passes_quote marker text)
  have inner := (passes_of_neutral accepted neutral).before
    (content.before (@shows_closing marker '}' (by decide)))
  rw [pieces]
  exact inner.signed (not_apart_append begins) .brace

/-- What a literal other than a decimal shows. -/
theorem shows_literal
    (accepted : Accepted marker)
    {dialect : Dialect}
    {value : Value}
    (noDecimal : ∀ digits, value ≠ .decimal digits)
    (written : dialect.literalText value = .ok text) :
    Shows marker text value.literalSigns := by
  have word : ∀ {word : String}, word.toList.all isNeutral = true → Shows marker word [] :=
    fun neutral => (passes_of_neutral accepted neutral).shows
  cases value with
  | null => cases written; exact word (by decide)
  | boolean value => cases value <;> cases written <;> exact word (by decide)
  | integer number => cases written; exact shows_integer accepted _
  | decimal digits => exact absurd rfl (noDecimal digits)
  | string text => cases written; exact (passes_quote marker text).shows
  | date day =>
      cases written
      exact shows_temporalLiteral accepted (by decide) (by decide) (unquoted_date day)
  | time clock =>
      cases written
      exact shows_temporalLiteral accepted (by decide) (by decide) (unquoted_clock clock)
  | dateTime moment =>
      cases written
      exact shows_temporalLiteral accepted (by decide) (by decide) (unquoted_dateTime moment)
  | float number =>
      simp only [Dialect.literalText] at written
      split at written
      · next finite =>
          cases written
          exact shows_float accepted finite
      · simp at written
  | enum name => simp [Dialect.literalText] at written
  | list items => simp [Dialect.literalText] at written

/-! ## Calls -/

/-- What a call writes before its argument is passed over. -/
theorem passes_opening (accepted : Accepted marker) (platform : Platform) (kind : FunctionKind) :
    Passes marker (kind.opening platform) := by
  have quoted : ∀ part : String, Unquoted part → Passes marker ("FUNCTION('" ++ part ++ "', ") := by
    intro part unquoted
    rw [generalCall_eq unquoted]
    exact (passes_of_neutral accepted (by decide)).append
      ((passes_quote marker part).append (passes_of_neutral accepted (by decide)))
  cases platform with
  | openJpa =>
      cases kind with
      | year | month | day | hour => exact quoted _ (by decide)
      | _ => exact passes_of_neutral accepted (by decide)
  | _ => cases kind <;> exact passes_of_neutral accepted (by decide)

theorem opening_begins (platform : Platform) (kind : FunctionKind) :
    ¬ Apart (kind.opening platform) := by
  cases platform <;> cases kind <;> decide

theorem passes_word (accepted : Accepted marker) (kind : FunctionKind) :
    Passes marker kind.word :=
  passes_of_neutral accepted (by cases kind <;> decide)

theorem word_begins (kind : FunctionKind) : ¬ Apart kind.word := by
  cases kind <;> decide

end Text
end ObjectQuery
