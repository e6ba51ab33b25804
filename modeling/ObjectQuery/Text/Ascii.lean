/-!
# ASCII classes and ASCII case

Names of platforms, functions and entities are compared without regard to the
case of ASCII letters; every other character stands for itself.
-/

namespace ObjectQuery
namespace Text

/-- An ASCII letter or digit, or the underscore. -/
def isNameCharacter (character : Char) : Bool :=
  character.isAlphanum || character == '_'

/-- An ASCII letter or the underscore. -/
def isNameStart (character : Char) : Bool :=
  character.isAlpha || character == '_'

/-- A printing ASCII character that is no letter, digit or space. -/
def isPunctuation (character : Char) : Bool :=
  let code := character.toNat
  (33 ≤ code && code ≤ 47) || (58 ≤ code && code ≤ 64) ||
    (91 ≤ code && code ≤ 96) || (123 ≤ code && code ≤ 126)

/-- Capital ASCII letters become small; every other character stays. -/
def asciiLower (text : String) : String :=
  String.ofList (text.toList.map Char.toLower)

/-- Equality of texts up to the case of ASCII letters. -/
def equalIgnoringCase (left right : String) : Bool :=
  asciiLower left == asciiLower right

section Characters

variable {character : Char}

/-- What holds of the ten digits holds of every digit. -/
@[elab_as_elim]
theorem digit_cases {motive : Char → Prop} (digit : character.isDigit = true)
    (each : ∀ value < 10, motive (Char.ofNat (48 + value))) : motive character := by
  simp only [Char.isDigit, Bool.and_eq_true, decide_eq_true_eq] at digit
  have lower : 48 ≤ character.toNat := digit.1
  have upper : character.toNat ≤ 57 := digit.2
  have found := each (character.toNat - 48) (by omega)
  rwa [Nat.add_sub_cancel' lower, Char.ofNat_toNat] at found

theorem isNameCharacter_of_isDigit (digit : character.isDigit = true) :
    isNameCharacter character = true := by
  simp [isNameCharacter, Char.isAlphanum, digit]

theorem isNameCharacter_of_isNameStart (start : isNameStart character = true) :
    isNameCharacter character = true := by
  simp only [isNameStart, Bool.or_eq_true] at start
  rcases start with letter | underscore
  · simp [isNameCharacter, Char.isAlphanum, letter]
  · simp [isNameCharacter, underscore]

theorem isNameStart_of_isNameCharacter (isName : isNameCharacter character = true)
    (noDigit : character.isDigit = false) : isNameStart character = true := by
  simpa [isNameCharacter, isNameStart, Char.isAlphanum, noDigit] using isName

theorem isNameCharacter_of_isPunctuation (punctuation : isPunctuation character = true)
    (noUnderscore : character ≠ '_') : isNameCharacter character = false := by
  have each : ∀ code < 127, isPunctuation (Char.ofNat code) = true → Char.ofNat code ≠ '_' →
      isNameCharacter (Char.ofNat code) = false := by decide +kernel
  have ascii : character.toNat < 127 := by
    simp only [isPunctuation, Bool.or_eq_true, Bool.and_eq_true, decide_eq_true_eq] at punctuation
    omega
  have found := each character.toNat ascii
  rw [Char.ofNat_toNat] at found
  exact found punctuation noUnderscore

end Characters

theorem equalIgnoringCase_refl (text : String) : equalIgnoringCase text text = true := by
  simp [equalIgnoringCase]

end Text
end ObjectQuery
