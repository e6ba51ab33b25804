import Mathlib
import ObjectQuery.Evaluation.Basic
import ObjectQuery.Text.Ascii

/-!
# Patterns read back

A pattern determines the texts that match it, although not always its mode: the text without
characters makes one pattern as a beginning and as an end. Escaping goes together with small
letters, whichever comes first, as long as the escape character is punctuation.
-/

namespace ObjectQuery

open Text

namespace Text
namespace Pattern

variable {escape : Char} {characters other : List Char}

/-! ## Escaped texts -/

@[simp] theorem needsEscape_self (escape : Char) : needsEscape escape escape = true := by
  simp [needsEscape]

/-- An escaped text that begins another one leaves an escaped text. -/
theorem escapeCharacters_append_eq
    {tail : List Char}
    (same : escapeCharacters escape characters ++ tail = escapeCharacters escape other) :
    ∃ more, other = characters ++ more ∧ tail = escapeCharacters escape more := by
  induction characters generalizing other with
  | nil => exact ⟨other, rfl, same⟩
  | cons first characters inductionHypothesis =>
      cases other with
      | nil =>
          simp only [escapeCharacters] at same
          split at same <;> simp at same
      | cons first' other =>
          obtain ⟨rfl, sameRest⟩ : first = first' ∧
              escapeCharacters escape characters ++ tail = escapeCharacters escape other := by
            by_cases needs : needsEscape escape first = true <;>
              by_cases needs' : needsEscape escape first' = true <;>
              simp only [escapeCharacters, needs, needs', if_true, if_false, Bool.false_eq_true,
                List.cons_append, List.cons.injEq, true_and] at same
            · exact same
            · exact absurd (same.1 ▸ needsEscape_self escape) needs'
            · exact absurd (same.1 ▸ needsEscape_self escape) needs
            · exact same
          obtain ⟨more, rfl, split⟩ := inductionHypothesis sameRest
          exact ⟨more, rfl, split⟩

theorem escapeCharacters_injective
    (same : escapeCharacters escape characters = escapeCharacters escape other) :
    characters = other := by
  obtain ⟨more, rfl, nothing⟩ := escapeCharacters_append_eq (by simpa using same : _ ++ [] = _)
  cases more with
  | nil => simp
  | cons first more =>
      simp only [escapeCharacters] at nothing
      split at nothing <;> simp at nothing

/-- No escaped text begins with an open wildcard. -/
theorem escapeCharacters_ne_wildcard (noWildcard : escape ≠ '%') {rest : List Char} :
    escapeCharacters escape characters ≠ '%' :: rest := by
  cases characters with
  | nil => simp [escapeCharacters]
  | cons first characters =>
      simp only [escapeCharacters]
      split
      · simp [noWildcard]
      · rintro same
        obtain ⟨rfl, -⟩ := List.cons.inj same
        simp_all [needsEscape]

/-- No escaped text is another one with an open wildcard behind it. -/
theorem escapeCharacters_append_wildcard_ne (noWildcard : escape ≠ '%') :
    escapeCharacters escape characters ++ ['%'] ≠ escapeCharacters escape other := by
  intro same
  obtain ⟨more, -, wildcard⟩ := escapeCharacters_append_eq same
  exact escapeCharacters_ne_wildcard noWildcard wildcard.symm

/-- The characters of a wrapped pattern. -/
def wrapped (mode : MatchMode) (escaped : List Char) : List Char :=
  match mode with
  | .contains => '%' :: (escaped ++ ['%'])
  | .startsWith => escaped ++ ['%']
  | .endsWith => '%' :: escaped

theorem toList_wrap (mode : MatchMode) (text : String) :
    (wrap mode (Pattern.escape text escape)).toList =
      wrapped mode (escapeCharacters escape text.toList) := by
  cases mode <;> simp [wrap, Pattern.escape, wrapped]

/-- Patterns of different modes are alike only where a beginning and an end without
characters are looked for. -/
theorem eq_of_wrapped_eq
    (noWildcard : escape ≠ '%')
    {mode mode' : MatchMode}
    (same : wrapped mode (escapeCharacters escape characters) =
      wrapped mode' (escapeCharacters escape other)) :
    characters = other ∧
      (mode = mode' ∨ characters = [] ∧ mode ≠ .contains ∧ mode' ≠ .contains) := by
  have ofStart : ∀ {characters other : List Char},
      escapeCharacters escape characters ++ ['%'] = '%' :: escapeCharacters escape other →
        characters = other ∧ characters = [] := by
    intro characters other same
    cases characters with
    | nil =>
        have nothing : escapeCharacters escape other = escapeCharacters escape [] :=
          (List.cons.inj same).2.symm
        exact ⟨(escapeCharacters_injective nothing).symm, rfl⟩
    | cons first characters =>
        cases escaped : escapeCharacters escape (first :: characters) with
        | nil =>
            simp only [escapeCharacters] at escaped
            split at escaped <;> simp at escaped
        | cons first' rest =>
            obtain ⟨rfl, -⟩ := List.cons.inj (escaped ▸ same)
            exact absurd escaped (escapeCharacters_ne_wildcard noWildcard)
  cases mode with
  | contains =>
      cases mode' with
      | contains =>
          have ends : escapeCharacters escape characters ++ ['%'] =
              escapeCharacters escape other ++ ['%'] := (List.cons.inj same).2
          exact ⟨escapeCharacters_injective (List.append_cancel_right ends), .inl rfl⟩
      | startsWith =>
          have ends : '%' :: escapeCharacters escape characters ++ ['%'] =
              escapeCharacters escape other ++ ['%'] := same
          exact absurd (List.append_cancel_right ends).symm
            (escapeCharacters_ne_wildcard noWildcard)
      | endsWith =>
          exact absurd (List.cons.inj same).2 (escapeCharacters_append_wildcard_ne noWildcard)
  | startsWith =>
      cases mode' with
      | contains =>
          have ends : escapeCharacters escape characters ++ ['%'] =
              '%' :: escapeCharacters escape other ++ ['%'] := same
          exact absurd (List.append_cancel_right ends) (escapeCharacters_ne_wildcard noWildcard)
      | startsWith =>
          exact ⟨escapeCharacters_injective (List.append_cancel_right same), .inl rfl⟩
      | endsWith =>
          obtain ⟨rfl, rfl⟩ := ofStart same
          exact ⟨rfl, .inr ⟨rfl, by simp, by simp⟩⟩
  | endsWith =>
      cases mode' with
      | contains =>
          exact absurd (List.cons.inj same).2.symm (escapeCharacters_append_wildcard_ne noWildcard)
      | startsWith =>
          obtain ⟨rfl, rfl⟩ := ofStart same.symm
          exact ⟨rfl, .inr ⟨rfl, by simp, by simp⟩⟩
      | endsWith =>
          exact ⟨escapeCharacters_injective (List.cons.inj same).2, .inl rfl⟩

end Pattern
end Text

open Text.Pattern

/-- Two matches with one pattern accept the same texts. -/
theorem MatchMode.holds_eq_of_wrap_eq
    {escape : Char}
    (noWildcard : escape ≠ '%')
    {mode mode' : MatchMode}
    {needle needle' : String}
    (same : wrap mode (Pattern.escape needle escape) = wrap mode' (Pattern.escape needle' escape))
    (subject : String) :
    mode.holds subject needle = mode'.holds subject needle' := by
  have characters := congrArg String.toList same
  rw [toList_wrap, toList_wrap] at characters
  obtain ⟨sameNeedle, modes⟩ := eq_of_wrapped_eq noWildcard characters
  obtain rfl : needle = needle' := String.toList_inj.mp sameNeedle
  rcases modes with rfl | ⟨nothing, closed, closed'⟩
  · rfl
  · -- The text without characters is found at the beginning and at the end of every text.
    have everywhere : ∀ mode : MatchMode, mode ≠ .contains → mode.holds subject needle = true := by
      intro mode closed
      cases mode with
      | contains => exact absurd rfl closed
      | startsWith => simp [MatchMode.holds, beginsWith, nothing]
      | endsWith => simp [MatchMode.holds, finishesWith, nothing]
    rw [everywhere mode closed, everywhere mode' closed']

/-! ## Small letters -/

namespace Text

theorem isPunctuation_of_large {character : Char} (large : 128 ≤ character.toNat) :
    isPunctuation character = false := by
  simp only [isPunctuation, Bool.or_eq_false_iff, Bool.and_eq_false_iff, decide_eq_false_iff_not]
  omega

theorem isPunctuation_ofNat_of_large {code : Nat} (large : 128 ≤ code) :
    isPunctuation (Char.ofNat code) = false := by
  by_cases valid : code.isValidChar
  · refine isPunctuation_of_large ?_
    simpa [Char.ofNat, valid, Char.ofNatAux, Char.toNat] using large
  · simp only [Char.ofNat, valid, dif_neg, not_false_eq_true]
    decide

/-- Punctuation is neither cased nor has another small form. -/
theorem small_of_isPunctuation {character : Char} (mark : isPunctuation character = true) :
    smallForm character = [character] ∧ isCased character = false := by
  have each : ∀ code < 128, isPunctuation (Char.ofNat code) = true →
      smallForm (Char.ofNat code) = [Char.ofNat code] ∧ isCased (Char.ofNat code) = false := by
    decide +kernel
  rcases Nat.lt_or_ge character.toNat 128 with ascii | large
  · simpa using each character.toNat ascii (by simpa using mark)
  · simp [isPunctuation_of_large large] at mark

/-- A code point is its own image unless a run covers it. -/
theorem imageUnder_cases {runs : List (Nat × Nat × Nat × Nat)} (code : Nat) :
    imageUnder runs code = code ∨
      ∃ run ∈ runs, run.1 ≤ code ∧ code ≤ run.2.1 ∧ (code - run.1) % run.2.2.1 = 0 ∧
        imageUnder runs code = run.2.2.2 + (code - run.1) := by
  unfold imageUnder
  split
  · next first last step image found =>
      have covered := List.find?_some found
      simp only [Bool.and_eq_true, decide_eq_true_eq, beq_iff_eq] at covered
      exact .inr ⟨_, List.mem_of_find?_eq_some found, covered.1.1, covered.1.2, covered.2, rfl⟩
  · exact .inl rfl

/-- No small form beyond ASCII is punctuation. -/
theorem isPunctuation_mapCase
    {character small : Char}
    (large : 128 ≤ character.toNat)
    (member : small ∈ mapCase CaseTable.smallExpansions CaseTable.smallRuns character) :
    isPunctuation small = false := by
  have expansions : ∀ entry ∈ CaseTable.smallExpansions, ∀ code ∈ entry.2,
      isPunctuation (Char.ofNat code) = false := by decide
  have runs : ∀ run ∈ CaseTable.smallRuns, 128 ≤ run.2.2.2 ∨
      run.1 = run.2.1 ∧ isPunctuation (Char.ofNat run.2.2.2) = false := by decide +kernel
  unfold mapCase at member
  split at member
  · next codes found =>
      obtain ⟨code, among, rfl⟩ := List.mem_map.mp member
      obtain ⟨before, after, split, -⟩ := List.lookup_eq_some_iff.mp found
      exact expansions (character.toNat, codes) (by simp [split]) code among
  · obtain rfl := List.mem_singleton.mp member
    rcases @imageUnder_cases CaseTable.smallRuns character.toNat with
      fixed | ⟨run, among, lower, upper, -, moved⟩
    · rw [fixed]
      exact isPunctuation_ofNat_of_large large
    · rw [moved]
      rcases runs run among with far | ⟨single, other⟩
      · exact isPunctuation_ofNat_of_large (Nat.le_add_right_of_le far)
      · rwa [show character.toNat - run.1 = 0 by omega]

/-- Punctuation is the small form of nothing else. -/
theorem eq_of_mem_smallForm
    {character small : Char}
    (mark : isPunctuation small = true)
    (member : small ∈ smallForm character) :
    small = character := by
  have each : ∀ code < 128, (smallForm (Char.ofNat code)).all (fun small =>
      !isPunctuation small || small == Char.ofNat code) = true := by decide +kernel
  rcases Nat.lt_or_ge character.toNat 128 with ascii | large
  · have fixed := each character.toNat ascii
    rw [Char.ofNat_toNat] at fixed
    simpa [mark] using List.all_eq_true.mp fixed small member
  · simp only [smallForm, Nat.not_lt_of_ge large, if_false] at member
    simp [isPunctuation_mapCase large member] at mark

theorem leadsToCased_cons (character : Char) (rest : List Char) :
    leadsToCased (character :: rest) =
      if isCaseIgnorable character then leadsToCased rest else isCased character := by
  unfold leadsToCased
  cases ignored : isCaseIgnorable character <;> simp [ignored]

/-- Characters put beside others change nothing where they change nothing beside each. -/
theorem leadsToCased_flatMap
    {beside : Char → List Char}
    (each : ∀ character rest,
      leadsToCased (beside character ++ rest) = leadsToCased (character :: rest))
    (characters : List Char) :
    leadsToCased (characters.flatMap beside) = leadsToCased characters := by
  induction characters with
  | nil => rfl
  | cons first rest inductionHypothesis =>
      rw [List.flatMap_cons, each, leadsToCased_cons, leadsToCased_cons, inductionHypothesis]

namespace Pattern

variable {escape : Char} {characters : List Char}

theorem isPunctuation_of_needsEscape
    (mark : isPunctuation escape = true)
    {character : Char}
    (needs : needsEscape escape character = true) :
    isPunctuation character = true := by
  simp only [needsEscape, Bool.or_eq_true, beq_iff_eq] at needs
  rcases needs with (rfl | rfl) | rfl
  · exact mark
  · decide
  · decide

/-- An escape character beside the escaped one leaves what a word leads to. -/
theorem leadsToCased_escaped
    (mark : isPunctuation escape = true)
    {character : Char}
    (needs : needsEscape escape character = true)
    (rest : List Char) :
    leadsToCased (escape :: character :: rest) = leadsToCased (character :: rest) ∧
      leadsToCased (character :: escape :: rest) = leadsToCased (character :: rest) := by
  have uncased := (small_of_isPunctuation mark).2
  have wildcards : isCaseIgnorable '%' = false ∧ isCaseIgnorable '_' = false := by
    decide +kernel
  have uncased' := (small_of_isPunctuation (isPunctuation_of_needsEscape mark needs)).2
  simp only [needsEscape, Bool.or_eq_true, beq_iff_eq] at needs
  simp only [leadsToCased_cons]
  rcases needs with (rfl | rfl) | rfl
  · cases isCaseIgnorable character <;> simp
  · simp [wildcards, uncased, uncased']
  · simp [wildcards, uncased, uncased']

theorem escapeCharacters_eq_flatMap :
    escapeCharacters escape characters = characters.flatMap fun character =>
      if needsEscape escape character then [escape, character] else [character] := by
  induction characters with
  | nil => rfl
  | cons first rest inductionHypothesis =>
      rw [escapeCharacters, List.flatMap_cons, inductionHypothesis]
      split <;> rfl

theorem escapeCharacters_append (left right : List Char) :
    escapeCharacters escape (left ++ right) =
      escapeCharacters escape left ++ escapeCharacters escape right := by
  simp [escapeCharacters_eq_flatMap]

theorem escapeCharacters_of_plain
    (plain : ∀ character ∈ characters, needsEscape escape character = false) :
    escapeCharacters escape characters = characters := by
  induction characters with
  | nil => rfl
  | cons first rest inductionHypothesis =>
      simp only [List.forall_mem_cons] at plain
      simp [escapeCharacters, plain.1, inductionHypothesis plain.2]

/-- The passed characters, in reverse, as they are passed in an escaped text. -/
def passedEscaped (escape : Char) (passed : List Char) : List Char :=
  passed.flatMap fun character =>
    if needsEscape escape character then [character, escape] else [character]

theorem leadsToCased_escapeCharacters
    (mark : isPunctuation escape = true)
    (characters : List Char) :
    leadsToCased (escapeCharacters escape characters) = leadsToCased characters := by
  rw [escapeCharacters_eq_flatMap]
  refine leadsToCased_flatMap (fun character rest => ?_) characters
  split
  · next needs => exact (leadsToCased_escaped mark needs rest).1
  · rfl

theorem leadsToCased_passedEscaped
    (mark : isPunctuation escape = true)
    (passed : List Char) :
    leadsToCased (passedEscaped escape passed) = leadsToCased passed := by
  refine leadsToCased_flatMap (fun character rest => ?_) passed
  split
  · next needs => exact (leadsToCased_escaped mark needs rest).2
  · rfl

/-- Escaping a text and then taking small letters is the same as the other way round. -/
theorem smallForms_escapeCharacters
    (mark : isPunctuation escape = true)
    (passed : List Char) :
    smallForms (passedEscaped escape passed) (escapeCharacters escape characters) =
      escapeCharacters escape (smallForms passed characters) := by
  induction characters generalizing passed with
  | nil => rfl
  | cons first rest inductionHypothesis =>
      have passes := inductionHypothesis (first :: passed)
      rw [smallForms, escapeCharacters]
      cases needs : needsEscape escape first with
      | true =>
          have firstMark := isPunctuation_of_needsEscape mark needs
          have noSigma : ∀ character, isPunctuation character = true → character ≠ 'Σ' := by
            rintro _ isMark rfl
            revert isMark
            decide
          simp only [passedEscaped, List.flatMap_cons, needs, if_true, List.cons_append,
            List.nil_append] at passes
          simp only [if_true, smallForms, noSigma _ mark, noSigma _ firstMark, if_false,
            (small_of_isPunctuation mark).1, (small_of_isPunctuation firstMark).1,
            List.cons_append, List.nil_append, escapeCharacters, needs]
          rw [← passes]
          rfl
      | false =>
          simp only [passedEscaped, List.flatMap_cons, needs, Bool.false_eq_true, if_false,
            List.cons_append, List.nil_append] at passes
          simp only [Bool.false_eq_true, if_false, smallForms]
          rw [leadsToCased_passedEscaped mark, leadsToCased_escapeCharacters mark,
            escapeCharacters_append, ← passes]
          congr 1
          -- No small form has to be escaped where the character itself has not.
          refine (escapeCharacters_of_plain fun small member => ?_).symm
          refine Bool.eq_false_iff.mpr fun escaped => ?_
          have smallMark := isPunctuation_of_needsEscape mark escaped
          have same : small = first := by
            split at member
            · split at member <;>
                · obtain rfl := List.mem_singleton.mp member
                  exact absurd smallMark (by decide)
            · exact eq_of_mem_smallForm smallMark member
          simp [same, needs] at escaped

end Pattern

/-- A pattern in small letters is the pattern of a text in small letters. -/
theorem lowercase_escape
    {escape : Char}
    (mark : isPunctuation escape = true)
    (text : String) :
    lowercase (Pattern.escape text escape) = Pattern.escape (lowercase text) escape := by
  have small : smallForms [] (Pattern.escapeCharacters escape text.toList) =
      Pattern.escapeCharacters escape (smallForms [] text.toList) :=
    Pattern.smallForms_escapeCharacters mark []
  simp [lowercase, Pattern.escape, small]

end Text
end ObjectQuery
