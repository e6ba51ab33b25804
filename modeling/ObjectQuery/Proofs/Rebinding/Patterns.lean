import ObjectQuery.Proofs.Phrases.Patterns
import ObjectQuery.Resolution.BuiltIn

/-!
# Patterns taken off again

The text that a pattern was made from is found again, in small letters where case does not
count. Small letters have no smaller form, so that a text found again in this way is matched
like the text itself.
-/

namespace ObjectQuery
namespace Text

/-! ## Images of code points -/

section Images

variable {runs : List (Nat × Nat × Nat × Nat)}

/-- A code point is its own image if no run covers it. -/
theorem imageUnder_of_uncovered
    {code : Nat}
    (uncovered : ∀ run ∈ runs,
      ¬(run.1 ≤ code ∧ code ≤ run.2.1 ∧ (code - run.1) % run.2.2.1 = 0)) :
    imageUnder runs code = code := by
  rcases imageUnder_cases code with fixed | ⟨run, member, lower, upper, onStep, -⟩
  · exact fixed
  · exact absurd ⟨lower, upper, onStep⟩ (uncovered run member)

/-- Whether the images of a run lie before or behind another run, or between its code points. -/
def misses (run run' : Nat × Nat × Nat × Nat) : Bool :=
  !(Nat.ble run'.1 (run.2.2.2 + (run.2.1 - run.1)) && Nat.ble run.2.2.2 run'.2.1) ||
    (Nat.beq run.2.2.1 2 || Nat.beq run.1 run.2.1) && Nat.beq run'.2.2.1 2 &&
      Nat.beq ((run.2.2.2 + run'.1) % 2) 1

/-- No image in a run has an image under a run that it misses. -/
theorem not_covered_of_misses
    {run run' : Nat × Nat × Nat × Nat}
    (missed : misses run run' = true)
    {code : Nat}
    (lower : run.1 ≤ code)
    (upper : code ≤ run.2.1)
    (onStep : (code - run.1) % run.2.2.1 = 0) :
    ¬(run'.1 ≤ run.2.2.2 + (code - run.1) ∧ run.2.2.2 + (code - run.1) ≤ run'.2.1 ∧
      (run.2.2.2 + (code - run.1) - run'.1) % run'.2.2.1 = 0) := by
  obtain ⟨first, last, step, image⟩ := run
  obtain ⟨first', last', step', image'⟩ := run'
  simp only [misses, Bool.or_eq_true, Bool.and_eq_true, Bool.not_eq_true', Bool.eq_false_iff,
    Nat.ble_eq, Nat.beq_eq, ne_eq, not_and_or] at missed
  rintro ⟨lower', upper', onStep'⟩
  simp only at lower upper onStep lower' upper' onStep'
  rcases missed with (before | behind) | ⟨⟨even | single, rfl⟩, odd⟩
  · omega
  · omega
  · rw [even] at onStep
    omega
  · omega

/-- No image has an image of its own if the images of the runs miss the runs. -/
theorem imageUnder_imageUnder
    (apart : (runs.all fun run => runs.all (misses run)) = true)
    (code : Nat) :
    imageUnder runs (imageUnder runs code) = imageUnder runs code := by
  rcases imageUnder_cases code with fixed | ⟨run, member, lower, upper, onStep, moved⟩
  · rw [fixed, fixed]
  · rw [moved]
    have missed := List.all_eq_true.mp (List.all_eq_true.mp apart run member)
    exact imageUnder_of_uncovered fun run' member' =>
      not_covered_of_misses (missed run' member') lower upper onStep

end Images

/-! ## Small letters -/

/-- A character that is its own small form, wherever it stands. -/
def IsSmall (character : Char) : Prop :=
  character ≠ 'Σ' ∧ smallForm character = [character]

instance (character : Char) : Decidable (IsSmall character) :=
  inferInstanceAs (Decidable (_ ∧ _))

theorem imageUnder_smallRuns (code : Nat) :
    imageUnder CaseTable.smallRuns (imageUnder CaseTable.smallRuns code) =
      imageUnder CaseTable.smallRuns code := by
  refine imageUnder_imageUnder ?_ code
  decide +kernel

/-- Where no expansion is listed, none is listed for the image either. -/
theorem lookup_smallExpansions_imageUnder
    {code : Nat}
    (unlisted : CaseTable.smallExpansions.lookup code = none) :
    CaseTable.smallExpansions.lookup (imageUnder CaseTable.smallRuns code) = none := by
  rcases @imageUnder_cases CaseTable.smallRuns code with
    fixed | ⟨run, member, lower, upper, onStep, moved⟩
  · rw [fixed, unlisted]
  · have missed : ∀ run ∈ CaseTable.smallRuns, ∀ entry ∈ CaseTable.smallExpansions,
        misses run (entry.1, entry.1, 1, 0) = true := by decide +kernel
    rw [moved]
    refine List.lookup_eq_none_iff.mpr fun entry listed => ?_
    have uncovered := not_covered_of_misses (missed run member entry listed) lower upper onStep
    rw [bne_iff_ne]
    intro same
    exact uncovered ⟨same.ge, same.le, Nat.mod_one _⟩

/-- The image of a code point without an expansion is small. -/
theorem isSmall_ofNat_imageUnder
    {code : Nat}
    (large : 128 ≤ code)
    (unlisted : CaseTable.smallExpansions.lookup code = none) :
    IsSmall (Char.ofNat (imageUnder CaseTable.smallRuns code)) := by
  have ascii : ∀ run ∈ CaseTable.smallRuns, 128 ≤ run.2.2.2 ∨
      run.1 = run.2.1 ∧ IsSmall (Char.ofNat run.2.2.2) := by decide +kernel
  rcases Nat.lt_or_ge (imageUnder CaseTable.smallRuns code) 128 with near | far
  · rcases @imageUnder_cases CaseTable.smallRuns code with
      fixed | ⟨run, member, lower, upper, onStep, moved⟩
    · omega
    · rcases ascii run member with beyond | ⟨single, small⟩
      · omega
      · rwa [moved, show code - run.1 = 0 by omega]
  · by_cases valid : (imageUnder CaseTable.smallRuns code).isValidChar
    · have toNat : (Char.ofNat (imageUnder CaseTable.smallRuns code)).toNat =
          imageUnder CaseTable.smallRuns code := by
        simp [Char.ofNat, valid, Char.ofNatAux, Char.toNat]
      refine ⟨fun isSigma => ?_, ?_⟩
      · -- The capital sigma has another image.
        have sigma : imageUnder CaseTable.smallRuns code = 'Σ'.toNat := by rw [← toNat, isSigma]
        have fixed := imageUnder_smallRuns code
        rw [sigma] at fixed
        revert fixed
        decide +kernel
      · simp only [smallForm, mapCase, toNat, Nat.not_lt_of_ge far, if_false,
          lookup_smallExpansions_imageUnder unlisted, imageUnder_smallRuns]
    · simp only [Char.ofNat, valid, dif_neg, not_false_eq_true]
      decide +kernel

/-- Small forms are small. -/
theorem isSmall_of_mem_smallForm
    {character small : Char}
    (member : small ∈ smallForm character) :
    IsSmall small := by
  have ascii : ∀ code < 128, IsSmall (Char.ofNat code).toLower := by decide +kernel
  have expansions : ∀ entry ∈ CaseTable.smallExpansions, ∀ code ∈ entry.2,
      IsSmall (Char.ofNat code) := by decide +kernel
  rcases Nat.lt_or_ge character.toNat 128 with near | far
  · rw [smallForm, if_pos near, List.mem_singleton] at member
    simpa [member] using ascii character.toNat near
  · simp only [smallForm, Nat.not_lt_of_ge far, if_false, mapCase] at member
    split at member
    · next codes found =>
        obtain ⟨code, among, rfl⟩ := List.mem_map.mp member
        obtain ⟨before, after, split, -⟩ := List.lookup_eq_some_iff.mp found
        exact expansions (character.toNat, codes) (by simp [split]) code among
    · next unlisted =>
        obtain rfl := List.mem_singleton.mp member
        exact isSmall_ofNat_imageUnder far unlisted

/-- The small forms of the characters are small. -/
theorem isSmall_of_mem_smallForms
    {characters passed : List Char}
    {small : Char}
    (member : small ∈ smallForms passed characters) :
    IsSmall small := by
  have sigmas : IsSmall 'σ' ∧ IsSmall 'ς' := by decide +kernel
  induction characters generalizing passed with
  | nil => simp [smallForms] at member
  | cons first rest inductionHypothesis =>
      rw [smallForms, List.mem_append] at member
      rcases member with ofFirst | ofRest
      · split at ofFirst
        · split at ofFirst
          · exact List.mem_singleton.mp ofFirst ▸ sigmas.2
          · exact List.mem_singleton.mp ofFirst ▸ sigmas.1
        · exact isSmall_of_mem_smallForm ofFirst
      · exact inductionHypothesis ofRest

/-- Small characters stay as they are. -/
theorem smallForms_of_isSmall
    {characters passed : List Char}
    (small : ∀ character ∈ characters, IsSmall character) :
    smallForms passed characters = characters := by
  induction characters generalizing passed with
  | nil => rfl
  | cons first rest inductionHypothesis =>
      obtain ⟨⟨noSigma, own⟩, others⟩ := List.forall_mem_cons.mp small
      rw [smallForms, if_neg noSigma, own, inductionHypothesis others, List.singleton_append]

/-- A text in small letters has no smaller letters. -/
theorem lowercase_lowercase (text : String) : lowercase (lowercase text) = lowercase text := by
  have small := @smallForms_of_isSmall (smallForms [] text.toList) []
    fun _ member => isSmall_of_mem_smallForms member
  simp [lowercase, small]

/-! ## Patterns -/

namespace Pattern

variable {escape : Char}

/-- The text behind an escaped one is found again. -/
theorem unescapeCharacters_escapeCharacters (characters : List Char) :
    unescapeCharacters escape (escapeCharacters escape characters) = some characters := by
  induction characters with
  | nil => rfl
  | cons first rest inductionHypothesis =>
      rw [escapeCharacters]
      split
      · simp [unescapeCharacters, inductionHypothesis]
      · next plain =>
          have other : first ≠ escape := by
            rintro rfl
            exact plain (needsEscape_self first)
          cases escaped : escapeCharacters escape rest with
          | nil =>
              rw [escaped] at inductionHypothesis
              obtain rfl : [] = rest := by simpa [unescapeCharacters] using inductionHypothesis
              simp [unescapeCharacters, other]
          | cons second others =>
              rw [escaped] at inductionHypothesis
              simp [unescapeCharacters, other, inductionHypothesis]

theorem body?_wrapped (mode : MatchMode) (escaped : List Char) :
    body? mode (wrapped mode escaped) = some escaped := by
  cases mode with
  | contains => simp [body?, wrapped, dropOpening?, dropClosing?, List.getLast?_append]
  | startsWith => simp [body?, wrapped, dropClosing?, List.getLast?_append]
  | endsWith => rfl

/-- The text that a pattern was made from is found again. -/
theorem unwrap?_wrap (mode : MatchMode) (text : String) :
    unwrap? mode (wrap mode (Pattern.escape text escape)) escape = some text := by
  rw [unwrap?, toList_wrap, body?_wrapped, Option.bind_some, unescapeCharacters_escapeCharacters,
    Option.map_some, String.ofList_toList]

end Pattern
end Text

/-- The text that a string match looks for is found again in its pattern, in small letters
where case does not count. -/
theorem BuiltIn.unwrap?_matchPattern
    {dialect : Dialect}
    (mark : Text.isPunctuation dialect.escapeCharacter = true)
    (text : String)
    (mode : MatchMode)
    (ignoreCase : Bool) :
    Text.Pattern.unwrap? mode (matchPattern dialect text mode ignoreCase)
        dialect.escapeCharacter =
      some (if ignoreCase then Text.lowercase text else text) := by
  cases ignoreCase with
  | true =>
      simp only [matchPattern, Dialect.escapePattern, if_true, Text.lowercase_escape mark]
      exact Text.Pattern.unwrap?_wrap mode _
  | false =>
      simp only [matchPattern, Dialect.escapePattern, Bool.false_eq_true, if_false]
      exact Text.Pattern.unwrap?_wrap mode text

end ObjectQuery
