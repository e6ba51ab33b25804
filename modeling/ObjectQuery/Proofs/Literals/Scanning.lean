import ObjectQuery.Proofs.Parameters.Literals
import ObjectQuery.Proofs.RoundTrip.Calendar

/-!
# Where a literal ends

A scan that comes to a literal looks for its end, and knows nothing of how it was written. A word
goes on as long as a name may, and a number as long as digits, a point or an exponent may follow.
A text between quotes ends at the first quote that is not written twice, and the escape of a date
or a time at the brace behind such a text.
-/

namespace ObjectQuery
namespace Text

open Number

/-! ## Reading from the front -/

/-- The content of a text between quotes, whose first quote was read, and what follows it. A quote
that is written twice stands for one inside. -/
def takeQuoted? : List Char → Option (List Char × List Char)
  | [] => none
  | character :: rest =>
      if character = quoteMark then
        match rest with
        | [] => some ([], [])
        | next :: others =>
            if next = quoteMark then
              (takeQuoted? others).map (Prod.map (quoteMark :: ·) id)
            else
              some ([], rest)
      else
        (takeQuoted? rest).map (Prod.map (character :: ·) id)

/-- What follows the exponent of a number; there may be none. -/
def afterExponent : List Char → List Char
  | [] => []
  | mark :: rest =>
      let (digits, others) := takeDigits (takeSign rest).2
      if (mark = 'e' ∨ mark = 'E') ∧ digits ≠ [] then others else mark :: rest

/-- The digits behind a point, if there is one, and what follows them. -/
def takeFraction : List Char → List Char × List Char
  | '.' :: afterPoint => takeDigits afterPoint
  | other => ([], other)

/-- What follows a number: a sign or none, digits with or without a point, and an exponent or
none. -/
def afterNumber? (characters : List Char) : Option (List Char) :=
  let (whole, afterWhole) := takeDigits (takeSign characters).2
  let (fraction, rest) := takeFraction afterWhole
  if whole.isEmpty && fraction.isEmpty then none else some (afterExponent rest)

/-- What follows a whole name, if it is one of the given words. -/
def afterWord? (words : List String) (characters : List Char) : Option (List Char) :=
  if String.ofList (characters.takeWhile isNameCharacter) ∈ words then
    some (characters.dropWhile isNameCharacter)
  else
    none

/-- The words that stand for values. -/
def valueWords : List String :=
  ["NULL", "TRUE", "FALSE"]

/-- The words that tell dates, times and points in time apart. -/
def escapeWords : List String :=
  ["d", "t", "ts"]

/-- What follows the escape of a date or a time whose first brace was read. -/
def afterEscape? (characters : List Char) : Option (List Char) :=
  match afterWord? escapeWords characters with
  | some (' ' :: '\x27' :: quoted) =>
      match takeQuoted? quoted with
      | some (_, '}' :: rest) => some rest
      | _ => none
  | _ => none

/-- What follows the literal at the front of a text. -/
def afterLiteral? : List Char → Option (List Char)
  | [] => none
  | first :: rest =>
      if first = quoteMark then
        (takeQuoted? rest).map Prod.snd
      else if first = '\x7b' then
        afterEscape? rest
      else if isNameStart first then
        afterWord? valueWords (first :: rest)
      else
        afterNumber? (first :: rest)

/-- A text with which no literal goes on. -/
structure Closes (rest : List Char) : Prop where
  separated : Separated rest
  point : rest.head? ≠ some '.'
  quote : rest.head? ≠ some quoteMark

variable {rest : List Char}

theorem closes_blank (rest : List Char) : Closes (' ' :: rest) :=
  ⟨by simp [Separated, isNameCharacter], by simp, by simp [quoteMark]⟩

/-! ## Texts between quotes -/

theorem takeQuoted?_cons {character : Char} (unquoted : character ≠ quoteMark) (rest : List Char) :
    takeQuoted? (character :: rest) = (takeQuoted? rest).map (Prod.map (character :: ·) id) := by
  cases rest <;> simp [takeQuoted?, unquoted]

/-- The content of a text between quotes is read back, whatever it is. -/
theorem takeQuoted?_doubleQuotes (content : List Char) (ends : rest.head? ≠ some quoteMark) :
    takeQuoted? (doubleQuotes content ++ quoteMark :: rest) = some (content, rest) := by
  induction content with
  | nil =>
      cases rest with
      | nil => simp [takeQuoted?]
      | cons next others =>
          have unlike : next ≠ quoteMark := by simpa using ends
          simp [takeQuoted?, unlike]
  | cons character content inductionHypothesis =>
      by_cases quoted : character = quoteMark
      · simp [doubleQuotes, takeQuoted?, quoted, inductionHypothesis]
      · simp [doubleQuotes, quoted, takeQuoted?_cons quoted, inductionHypothesis]

theorem toList_quote (content : String) :
    (quote content).toList = quoteMark :: (doubleQuotes content.toList ++ [quoteMark]) :=
  String.toList_ofList

/-- A text between quotes is told from every other one. -/
theorem quote_injective : Function.Injective quote := by
  intro content content' same
  have written := congrArg String.toList same
  rw [toList_quote, toList_quote, List.cons_inj_right] at written
  have read := @takeQuoted?_doubleQuotes [] content.toList (by simp)
  rw [written, takeQuoted?_doubleQuotes content'.toList (by simp)] at read
  exact String.toList_inj.mp (Prod.mk.inj (Option.some.inj read)).1.symm

/-- The quote at the end of a literal is found, however many quotes it holds. -/
theorem afterLiteral?_quote (content : String) (ends : rest.head? ≠ some quoteMark) :
    afterLiteral? ((quote content).toList ++ rest) = some rest := by
  simp [toList_quote, afterLiteral?, takeQuoted?_doubleQuotes content.toList ends]

/-! ## Words and escapes -/

theorem afterWord?_append
    {words : List String}
    {word : String}
    (known : word ∈ words)
    (named : ∀ character ∈ word.toList, isNameCharacter character = true)
    (separated : Separated rest) :
    afterWord? words (word.toList ++ rest) = some rest := by
  have taken : (word.toList ++ rest).takeWhile isNameCharacter = word.toList := by
    rw [List.takeWhile_append_of_pos named]
    cases rest with
    | nil => simp
    | cons first others => simp [separated first rfl]
  have dropped : (word.toList ++ rest).dropWhile isNameCharacter = rest := by
    rw [List.dropWhile_append_of_pos named]
    cases rest with
    | nil => rfl
    | cons first others => simp [separated first rfl]
  rw [afterWord?, taken, dropped, String.ofList_toList, if_pos known]

theorem afterLiteral?_word
    {word : String}
    (known : word ∈ valueWords)
    (separated : Separated rest) :
    afterLiteral? (word.toList ++ rest) = some rest := by
  have each : ∀ word ∈ valueWords, word.toList.all isNameCharacter = true ∧
      ∃ first others, word.toList = first :: others ∧ isNameStart first = true := by
    simp [valueWords, isNameCharacter, isNameStart]
  obtain ⟨named, first, others, characters, starts⟩ := each word known
  have read := afterWord?_append known (List.all_eq_true.mp named) separated
  have unquoted : first ≠ quoteMark := by rintro rfl; exact absurd starts (by decide)
  have unbraced : first ≠ '\x7b' := by rintro rfl; exact absurd starts (by decide)
  rw [characters, List.cons_append] at read ⊢
  simp [afterLiteral?, unquoted, unbraced, starts, read]

theorem afterLiteral?_temporalLiteral
    {word content : String}
    (known : word ∈ escapeWords)
    (unquoted : Unquoted content) :
    afterLiteral? ((Dialect.temporalLiteral word content).toList ++ rest) = some rest := by
  have named : ∀ word ∈ escapeWords, word.toList.all isNameCharacter = true := by
    simp [escapeWords, isNameCharacter]
  have blank : ∀ others, Separated (' ' :: others) := fun others => (closes_blank others).separated
  let quoted := quoteMark :: (content.toList ++ quoteMark :: '}' :: rest)
  have read : afterWord? escapeWords (word.toList ++ ' ' :: quoted) = some (' ' :: quoted) :=
    afterWord?_append known (List.all_eq_true.mp (named word known)) (blank quoted)
  have inside := @takeQuoted?_doubleQuotes ('}' :: rest) content.toList (by simp [quoteMark])
  rw [doubleQuotes_of_unquoted unquoted] at inside
  have characters : (Dialect.temporalLiteral word content).toList ++ rest =
      '\x7b' :: (word.toList ++ ' ' :: quoted) := by
    simp [Dialect.temporalLiteral, quoteMark, quoted]
  rw [characters, afterLiteral?, if_neg (by decide), if_pos rfl, afterEscape?, read]
  simp only [quoted, quoteMark] at inside ⊢
  simp only [inside]

/-! ## Numbers -/

/-- What a decimal number is written like: what the library reads as one, but for the names of
infinity and NaN. -/
def IsNumeral (characters : List Char) : Prop :=
  (unsigned? (takeSign characters).1 (takeSign characters).2).isSome = true

instance (characters : List Char) : Decidable (IsNumeral characters) :=
  inferInstanceAs (Decidable (_ = true))

variable {characters : List Char}

theorem Closes.endsDigits (closes : Closes rest) : Calendar.EndsDigits rest := by
  intro first others same
  have ends := closes.separated first (by simp [same])
  simp only [isNameCharacter, Char.isAlphanum, Bool.or_eq_false_iff] at ends
  exact ends.1.2

theorem takeDigits_append (ends : Calendar.EndsDigits rest) (characters : List Char) :
    takeDigits (characters ++ rest) =
      ((takeDigits characters).1, (takeDigits characters).2 ++ rest) := by
  induction characters with
  | nil =>
      cases rest with
      | nil => rfl
      | cons first others => simp [takeDigits, ends first others rfl]
  | cons character characters inductionHypothesis =>
      simp only [takeDigits, Prod.mk.injEq] at inductionHypothesis
      by_cases digit : character.isDigit = true
      · simp [takeDigits, digit, inductionHypothesis]
      · simp [takeDigits, digit]

theorem takeDigits_of_all (digits : characters.all Char.isDigit = true) :
    takeDigits characters = (characters, []) := by
  rw [List.all_eq_true] at digits
  rw [takeDigits, List.takeWhile_eq_self_iff.mpr digits, List.dropWhile_eq_nil_iff.mpr digits]

theorem takeSign_append (visible : characters ≠ []) (rest : List Char) :
    takeSign (characters ++ rest) =
      ((takeSign characters).1, (takeSign characters).2 ++ rest) := by
  cases characters with
  | nil => exact absurd rfl visible
  | cons first others =>
      by_cases minus : first = '-'
      · simp [minus, takeSign]
      · by_cases plus : first = '+'
        · simp [plus, takeSign]
        · simp [takeSign, minus, plus]

theorem takeFraction_append (closes : Closes rest) (characters : List Char) :
    takeFraction (characters ++ rest) =
      ((takeFraction characters).1, (takeFraction characters).2 ++ rest) := by
  cases characters with
  | nil =>
      cases rest with
      | nil => rfl
      | cons first others =>
          have noPoint : first ≠ '.' := by simpa using closes.point
          simp [takeFraction, noPoint]
  | cons first others =>
      by_cases point : first = '.'
      · subst point
        exact takeDigits_append closes.endsDigits others
      · simp [takeFraction, point]

theorem afterExponent_append
    (exponent : (exponentPart? characters).isSome = true)
    (closes : Closes rest) :
    afterExponent (characters ++ rest) = rest := by
  cases characters with
  | nil =>
      cases rest with
      | nil => rfl
      | cons first others =>
          have ends := closes.separated first rfl
          have small : first ≠ 'e' := by rintro rfl; exact absurd ends (by decide)
          have large : first ≠ 'E' := by rintro rfl; exact absurd ends (by decide)
          simp [afterExponent, small, large]
  | cons mark others =>
      simp only [exponentPart?] at exponent
      split at exponent
      · next isMark =>
          simp only [integer?, String.toList_ofList] at exponent
          split at exponent
          · simp at exponent
          · next digits =>
              simp only [Bool.or_eq_true, List.isEmpty_iff, Bool.not_eq_true', not_or,
                Bool.not_eq_false] at digits
              have visible : others ≠ [] := by rintro rfl; simp [takeSign] at digits
              simp [afterExponent, takeSign_append visible,
                takeDigits_append closes.endsDigits, takeDigits_of_all digits.2, isMark, digits.1]
      · simp at exponent

/-- A number begins with a sign, a digit or a point. -/
theorem IsNumeral.first
    {first : Char}
    {others : List Char}
    (numeral : IsNumeral (first :: others)) :
    first = '-' ∨ first = '+' ∨ first = '.' ∨ first.isDigit = true := by
  by_contra unlike
  simp only [not_or, Bool.not_eq_true] at unlike
  obtain ⟨minus, plus, point, digit⟩ := unlike
  simp [IsNumeral, takeSign, minus, plus, unsigned?, takeDigits, digit, point] at numeral

/-- The end of a number is found where no literal goes on. -/
theorem afterNumber?_append (numeral : IsNumeral characters) (closes : Closes rest) :
    afterNumber? (characters ++ rest) = some rest := by
  have visible : characters ≠ [] := by rintro rfl; exact absurd numeral (by decide)
  rw [IsNumeral] at numeral
  rcases took : takeDigits (takeSign characters).2 with ⟨whole, afterWhole⟩
  have parts : unsigned? (takeSign characters).1 (takeSign characters).2 =
      if whole.isEmpty && (takeFraction afterWhole).1.isEmpty then
        none
      else
        (exponentPart? (takeFraction afterWhole).2).map fun exponent =>
          ⟨(takeSign characters).1, whole ++ (takeFraction afterWhole).1,
            exponent - ((takeFraction afterWhole).1.length : Int)⟩ := by
    rw [unsigned?, took]
    rfl
  rw [parts] at numeral
  split at numeral
  · simp at numeral
  · next some_digit =>
      rw [Option.isSome_map] at numeral
      simp [afterNumber?, takeSign_append visible, takeDigits_append closes.endsDigits, took,
        takeFraction_append closes, some_digit, afterExponent_append numeral closes]

theorem isNameStart_of_isDigit {character : Char} (digit : character.isDigit = true) :
    isNameStart character = false :=
  digit_cases digit (by decide)

theorem afterLiteral?_numeral (numeral : IsNumeral characters) (closes : Closes rest) :
    afterLiteral? (characters ++ rest) = some rest := by
  cases characters with
  | nil => exact absurd numeral (by decide)
  | cons first others =>
      have read := afterNumber?_append numeral closes
      have notWord : first ≠ quoteMark ∧ first ≠ '\x7b' ∧ isNameStart first = false := by
        rcases numeral.first with rfl | rfl | rfl | digit
        · decide
        · decide
        · decide
        · refine ⟨?_, ?_, ?_⟩
          · rintro rfl; exact absurd digit (by decide)
          · rintro rfl; exact absurd digit (by decide)
          · exact isNameStart_of_isDigit digit
      rw [List.cons_append] at read ⊢
      simp [afterLiteral?, notWord, read]

theorem takeSign_digits
    (negative : Bool)
    {first : Char}
    (digit : first.isDigit = true)
    (others : List Char) :
    takeSign ((if negative then ['-'] else []) ++ first :: others) =
      (negative, first :: others) := by
  have minus : first ≠ '-' := by rintro rfl; exact absurd digit (by decide)
  have plus : first ≠ '+' := by rintro rfl; exact absurd digit (by decide)
  cases negative <;> simp [takeSign, minus, plus]

/-- Digits behind a minus or none are a number, and so are digits around a point. -/
theorem isNumeral_of_digits
    {whole fraction : List Char}
    (negative : Bool)
    (visible : whole ≠ [])
    (wholes : whole.all Char.isDigit = true)
    (fractions : fraction.all Char.isDigit = true) :
    IsNumeral ((if negative then ['-'] else []) ++ whole) ∧
      IsNumeral ((if negative then ['-'] else []) ++ (whole ++ '.' :: fraction)) := by
  cases whole with
  | nil => exact absurd rfl visible
  | cons first others =>
      have digit : first.isDigit = true := List.all_eq_true.mp wholes first List.mem_cons_self
      have behind : takeDigits (first :: (others ++ '.' :: fraction)) =
          (first :: others, '.' :: fraction) := by
        rw [← List.cons_append, takeDigits_append (Calendar.endsDigits_cons (by decide) fraction),
          takeDigits_of_all wholes, List.nil_append]
      constructor
      · simp [IsNumeral, takeSign_digits negative digit, unsigned?, takeDigits_of_all wholes,
          exponentPart?]
      · simp [IsNumeral, takeSign_digits negative digit, unsigned?, behind,
          takeDigits_of_all fractions, exponentPart?]

end Text
end ObjectQuery
