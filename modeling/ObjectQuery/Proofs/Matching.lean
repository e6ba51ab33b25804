import ObjectQuery.Proofs.Ensures
import ObjectQuery.Proofs.Phrases.Patterns

/-!
# What a pattern matches

The reader of a pattern knows three kinds of special characters: the wildcard `%` stands for
any run of characters, the wildcard `_` for any one character, and an escape character makes
the next character stand for itself. To be read in this way, a string match escapes its text
and opens the sides that its mode leaves open. What such a pattern matches is what the string
match accepts in memory, also where case does not count: the pattern is put in small letters
after it is escaped, and then fits the subjects in small letters.
-/

namespace ObjectQuery

open Text

namespace Text
namespace Pattern

/-! ## Patterns as their readers take them -/

/-- The texts that a pattern matches. -/
inductive Matches (escape : Char) : List Char → List Char → Prop where
  | nothing : Matches escape [] []
  | escaped
      (character : Char)
      {pattern subject : List Char}
      (matched : Matches escape pattern subject) :
      Matches escape (escape :: character :: pattern) (character :: subject)
  | run
      (special : '%' ≠ escape)
      (run : List Char)
      {pattern subject : List Char}
      (matched : Matches escape pattern subject) :
      Matches escape ('%' :: pattern) (run ++ subject)
  | single
      (special : '_' ≠ escape)
      (character : Char)
      {pattern subject : List Char}
      (matched : Matches escape pattern subject) :
      Matches escape ('_' :: pattern) (character :: subject)
  | plain
      {character : Char}
      (ordinary : needsEscape escape character = false)
      {pattern subject : List Char}
      (matched : Matches escape pattern subject) :
      Matches escape (character :: pattern) (character :: subject)

/-- Whether a pattern matches a text, every run tried for a wildcard. -/
def accepts (escape : Char) : List Char → List Char → Bool
  | [], subject => subject.isEmpty
  | character :: pattern, subject =>
      if character = escape then
        match pattern, subject with
        | literal :: pattern, first :: subject => literal == first && accepts escape pattern subject
        | _, _ => false
      else if character = '%' then
        subject.tails.any fun tail => accepts escape pattern tail
      else
        match subject with
        | [] => false
        | first :: subject =>
            (character == '_' || character == first) && accepts escape pattern subject

variable {escape : Char} {pattern subject : List Char}

theorem accepts_of_matches (matched : Matches escape pattern subject) :
    accepts escape pattern subject = true := by
  induction matched with
  | nothing => rfl
  | escaped character matched inductionHypothesis => simp [accepts, inductionHypothesis]
  | run special run matched inductionHypothesis =>
      rw [accepts.eq_def]
      simp only [special, if_false, if_true, List.any_eq_true]
      exact ⟨_, (List.mem_tails _ _).mpr (List.suffix_append _ _), inductionHypothesis⟩
  | single special character matched inductionHypothesis =>
      rw [accepts.eq_def]
      simp [special, inductionHypothesis]
  | plain ordinary matched inductionHypothesis =>
      simp only [needsEscape, Bool.or_eq_false_iff, beq_eq_false_iff_ne] at ordinary
      rw [accepts.eq_def]
      simp [ordinary, inductionHypothesis]

theorem matches_of_accepts (accepted : accepts escape pattern subject = true) :
    Matches escape pattern subject := by
  fun_induction accepts escape pattern subject with
  | case1 subject =>
      obtain rfl := List.isEmpty_iff.mp accepted
      exact .nothing
  | case2 literal pattern first subject inductionHypothesis =>
      rw [Bool.and_eq_true, beq_iff_eq] at accepted
      obtain ⟨rfl, rest⟩ := accepted
      exact .escaped literal (inductionHypothesis rest)
  | case3 => cases accepted
  | case4 subject pattern special inductionHypothesis =>
      obtain ⟨tail, suffix, rest⟩ := List.any_eq_true.mp accepted
      obtain ⟨run, rfl⟩ := (List.mem_tails _ _).mp suffix
      exact .run special run (inductionHypothesis tail rest)
  | case5 => cases accepted
  | case6 character pattern noEscape noRun first subject inductionHypothesis =>
      rw [Bool.and_eq_true, Bool.or_eq_true, beq_iff_eq, beq_iff_eq] at accepted
      obtain ⟨rfl | rfl, rest⟩ := accepted
      · exact .single noEscape first (inductionHypothesis rest)
      · by_cases single : character = '_'
        · subst single
          exact .single noEscape '_' (inductionHypothesis rest)
        · exact .plain (by simp [needsEscape, noEscape, noRun, single]) (inductionHypothesis rest)

instance : Decidable (Matches escape pattern subject) :=
  decidable_of_iff (accepts escape pattern subject = true)
    ⟨matches_of_accepts, accepts_of_matches⟩

/-! ## Patterns as a string match writes them -/

/-- An escaped text matches itself, and what stands behind it the rest. -/
theorem matches_escapeCharacters_append_iff {raw : List Char} :
    Matches escape (escapeCharacters escape raw ++ pattern) subject ↔
      ∃ rest, subject = raw ++ rest ∧ Matches escape pattern rest := by
  induction raw generalizing subject with
  | nil => simp [escapeCharacters]
  | cons first raw inductionHypothesis =>
      rw [escapeCharacters]
      constructor
      · intro matched
        cases needs : needsEscape escape first with
        | true =>
            rw [needs, if_pos rfl, List.cons_append, List.cons_append] at matched
            -- The escape character is no wildcard here, and does not stand for itself.
            cases matched with
            | escaped character matched =>
                obtain ⟨rest, rfl, others⟩ := inductionHypothesis.mp matched
                exact ⟨rest, rfl, others⟩
            | run special => exact absurd rfl special
            | single special => exact absurd rfl special
            | plain ordinary => simp at ordinary
        | false =>
            rw [needs, if_neg Bool.false_ne_true, List.cons_append] at matched
            generalize tail : escapeCharacters escape raw ++ pattern = behind at matched
            cases matched with
            | escaped => simp at needs
            | run => simp [needsEscape] at needs
            | single => simp [needsEscape] at needs
            | plain ordinary matched =>
                obtain ⟨rest, rfl, others⟩ := inductionHypothesis.mp (tail ▸ matched)
                exact ⟨rest, rfl, others⟩
      · rintro ⟨rest, rfl, matched⟩
        have others := inductionHypothesis.mpr ⟨rest, rfl, matched⟩
        split
        · exact .escaped first others
        · next plain => exact .plain (Bool.eq_false_iff.mpr plain) others

/-- A wildcard for a run leaves any end of the subject to the rest. -/
theorem matches_run_iff (special : '%' ≠ escape) :
    Matches escape ('%' :: pattern) subject ↔
      ∃ run rest, subject = run ++ rest ∧ Matches escape pattern rest := by
  constructor
  · intro matched
    cases matched with
    | escaped => exact absurd rfl special
    | run _ run matched => exact ⟨run, _, rfl, matched⟩
    | plain ordinary => simp [needsEscape] at ordinary
  · rintro ⟨run, rest, rfl, matched⟩
    exact .run special run matched

theorem matches_nil_iff : Matches escape [] subject ↔ subject = [] := by
  constructor
  · rintro ⟨⟩
    rfl
  · rintro rfl
    exact .nothing

theorem matches_last_run (special : '%' ≠ escape) : Matches escape ['%'] subject :=
  (matches_run_iff special).mpr ⟨subject, [], (List.append_nil _).symm, .nothing⟩

end Pattern
end Text

/-! ## Modes -/

/-- Where a mode looks for a text in its subject. -/
def MatchMode.Finds (mode : MatchMode) (subject needle : List Char) : Prop :=
  match mode with
  | .contains => needle <:+: subject
  | .startsWith => needle <+: subject
  | .endsWith => needle <:+ subject

theorem Text.afterFirst?_isSome_iff {needle characters : List Char} :
    (afterFirst? needle characters).isSome = true ↔ needle <:+: characters := by
  induction characters with
  | nil => cases needle <;> simp [afterFirst?]
  | cons first rest inductionHypothesis =>
      rw [List.infix_cons_iff, ← inductionHypothesis, afterFirst?]
      split
      · next starts => simp [List.isPrefixOf_iff_prefix.mp starts]
      · next other => simp [mt List.isPrefixOf_iff_prefix.mpr other]

/-- A text is accepted in memory where its mode finds it. -/
theorem MatchMode.holds_iff_finds {mode : MatchMode} {subject needle : String} :
    mode.holds subject needle = true ↔ mode.Finds subject.toList needle.toList := by
  cases mode with
  | contains => exact afterFirst?_isSome_iff
  | startsWith => exact List.isPrefixOf_iff_prefix
  | endsWith => exact List.isSuffixOf_iff_suffix

open Text.Pattern in
/-- The pattern of a text matches the subjects in which its mode finds the text. -/
theorem MatchMode.matches_wrapped_iff
    {mode : MatchMode}
    {escape : Char}
    (special : '%' ≠ escape)
    {subject raw : List Char} :
    Matches escape (wrapped mode (escapeCharacters escape raw)) subject ↔
      mode.Finds subject raw := by
  cases mode with
  | contains =>
      rw [wrapped, matches_run_iff special]
      simp only [matches_escapeCharacters_append_iff, matches_last_run special, and_true]
      constructor
      · rintro ⟨run, _, rfl, rest, rfl⟩
        exact ⟨run, rest, List.append_assoc _ _ _⟩
      · rintro ⟨run, rest, rfl⟩
        exact ⟨run, raw ++ rest, List.append_assoc _ _ _, rest, rfl⟩
  | startsWith =>
      simp only [wrapped, matches_escapeCharacters_append_iff, matches_last_run special, and_true]
      exact exists_congr fun _ => eq_comm
  | endsWith =>
      have whole := fun rest => @matches_escapeCharacters_append_iff escape [] rest raw
      simp only [List.append_nil, matches_nil_iff, exists_eq_right] at whole
      simp only [wrapped, matches_run_iff special, whole, exists_eq_right]
      exact exists_congr fun _ => eq_comm

open Text.Pattern in
theorem MatchMode.matches_wrap_iff
    {mode : MatchMode}
    {escape : Char}
    (special : '%' ≠ escape)
    {subject raw : String} :
    Matches escape (wrap mode (Pattern.escape raw escape)).toList subject.toList ↔
      mode.Finds subject.toList raw.toList := by
  rw [toList_wrap, matches_wrapped_iff special]

/-! ## String matches as they are written and as they are evaluated -/

namespace BuiltIn

open Resolution

/-- What is written for a match refers to the last parameter. -/
theorem matchText_ensures
    {settings : Settings}
    {before : Context}
    (leftText text : String)
    (mode : MatchMode)
    (ignoreCase : Bool) :
    (matchText leftText text mode ignoreCase).Ensures settings before fun written after =>
      ∃ subject name,
        written = subject ++ " LIKE " ++ settings.dialect.referenceTo name ++ " " ++
          settings.dialect.escapeSuffix ∧
        after.parameters.entries.getLast? = some (name,
          .of (.string (matchPattern settings.dialect text mode ignoreCase)) .string) := by
  refine .bindDialect (.bindAny fun subject between => ?_)
  rintro written after ⟨rfl, rfl⟩
  exact ⟨subject, _, rfl, by simp [ParameterTable.push]⟩

/-- A string match refers to the last parameter, which is bound to the pattern of its text. -/
theorem stringMatch_ensures
    {settings : Settings}
    {before : Context}
    (registry : Resolvers)
    (left value : Expression)
    (mode : MatchMode)
    (ignoreCase : Bool) :
    (filter registry (.stringMatch left value mode ignoreCase)).Ensures settings before
      fun resolved after => ∃ text subject name,
        value.constant?.bind Value.text? = some text ∧
        resolved = .fragment (subject ++ " LIKE " ++ settings.dialect.referenceTo name ++ " " ++
          settings.dialect.escapeSuffix) ∧
        after.parameters.entries.getLast? = some (name,
          .of (.string (matchPattern settings.dialect text mode ignoreCase)) .string) := by
  rw [filter]
  refine (matchedText_ensures value).bind fun text between found =>
    .bindAny fun leftText between => ?_
  refine (matchText_ensures (enclose left leftText) text mode ignoreCase).bind ?_
  rintro written after ⟨subject, name, rfl, bound⟩
  exact .pure ⟨text, subject, name, found.1, rfl, bound⟩

/-- The pattern that is bound for a text matches what is accepted in memory, a subject in small
letters where case does not count. -/
theorem matches_matchPattern_iff
    {dialect : Dialect}
    (mark : isPunctuation dialect.escapeCharacter = true)
    (special : '%' ≠ dialect.escapeCharacter)
    {text subject : String}
    {mode : MatchMode}
    {ignoreCase : Bool} :
    Pattern.Matches dialect.escapeCharacter (matchPattern dialect text mode ignoreCase).toList
        (if ignoreCase then lowercase subject else subject).toList ↔
      Evaluation.matchesText mode ignoreCase (.string subject) (.string text) = true := by
  cases ignoreCase with
  | true =>
      simp only [matchPattern, Dialect.escapePattern, Evaluation.matchesText, if_true,
        lowercase_escape mark, MatchMode.matches_wrap_iff special, MatchMode.holds_iff_finds]
  | false =>
      simp only [matchPattern, Dialect.escapePattern, Evaluation.matchesText,
        Bool.false_eq_true, if_false, MatchMode.matches_wrap_iff special,
        MatchMode.holds_iff_finds]

end BuiltIn

theorem Validation.value_of_stringMatch
    {left value : Expression}
    {mode : MatchMode}
    {ignoreCase : Bool}
    (valid : Validation.filter (.stringMatch left value mode ignoreCase) = .ok ()) :
    ∃ text, value = .constant (.string text) := by
  simp only [Validation.filter, Except.bind_ok_iff] at valid
  obtain ⟨_, _, _, _, checked⟩ := valid
  unfold Validation.matchedValue at checked
  split at checked
  · exact ⟨_, rfl⟩
  · cases checked
  · cases checked

open BuiltIn in
/--
Patterns mean what string matches say. Whatever the escape character, apart from the wildcard
for a run, the pattern of a text matches exactly the subjects that contain the text, or start or
end with it. A written string match binds a pattern that matches a subject exactly where the
string match accepts it in memory; where case does not count, it matches the subject in small
letters.
-/
theorem Filter.stringMatch_pattern_means
    {escape : Char}
    (special : '%' ≠ escape) :
    (∀ (mode : MatchMode) (raw subject : String),
      Pattern.Matches escape (Pattern.wrap mode (Pattern.escape raw escape)).toList
          subject.toList ↔
        mode.Finds subject.toList raw.toList) ∧
    ∀ (settings : Settings) (registry : Resolvers) (before after : Context)
      (left value : Expression) (mode : MatchMode) (ignoreCase : Bool) (resolved : Resolved),
      settings.dialect.escapeCharacter = escape → isPunctuation escape = true →
      Validation.filter (.stringMatch left value mode ignoreCase) = .ok () →
      BuiltIn.filter registry (.stringMatch left value mode ignoreCase) settings before =
        (.ok resolved, after) →
      ∃ written name pattern,
        resolved = .fragment (written ++ " LIKE " ++ settings.dialect.referenceTo name ++ " " ++
          settings.dialect.escapeSuffix) ∧
        after.parameters.entries.getLast? = some (name, .of (.string pattern) .string) ∧
        ∀ row subject, Evaluation.operand row left = .ok (.string subject) →
          (Filter.stringMatch left value mode ignoreCase).evaluate row =
            .ok (decide (Pattern.Matches escape pattern.toList
              (if ignoreCase then lowercase subject else subject).toList)) := by
  refine ⟨fun mode raw subject => MatchMode.matches_wrap_iff special, ?_⟩
  rintro settings registry before after left value mode ignoreCase resolved rfl mark valid run
  obtain ⟨text, rfl⟩ := Validation.value_of_stringMatch valid
  obtain ⟨text', written, name, found, rfl, bound⟩ :=
    stringMatch_ensures registry left _ mode ignoreCase resolved after run
  obtain rfl : text = text' := by simpa [Expression.constant?, Value.text?] using found
  refine ⟨written, name, _, rfl, bound, fun row subject given => ?_⟩
  have evaluated : (Filter.stringMatch left (.constant (.string text)) mode ignoreCase).evaluate
      row = .ok (Evaluation.matchesText mode ignoreCase (.string subject) (.string text)) := by
    simp [Filter.evaluate, Evaluation.filter, given, Evaluation.operand, bind, Except.bind]
  rw [evaluated, Except.ok.injEq, Bool.eq_iff_iff, decide_eq_true_iff]
  exact (matches_matchPattern_iff mark special).symm

/-- A discount is looked for in labels without regard to case. -/
theorem Filter.discount_pattern_means :
    let settings : Settings := ⟨Dialect.standard .hibernate, "", standardDepthLimit⟩
    let discount : Filter :=
      .stringMatch (.path (Path.of "label" .string)) (.constant (.string "50% Off")) .contains true
    ('%' ≠ '!' ∧ isPunctuation '!' = true ∧ Validation.filter discount = .ok ()) ∧
      (∃ after,
        BuiltIn.filter .standard discount settings (.root .default none) =
            (.ok (.fragment "lower(label) LIKE :p0001 ESCAPE '!'"), after) ∧
          after.parameters.values.map Value.toText = ["%50!% off%"]) ∧
      (∀ subject, discount.evaluate ⟨[("label", .string subject)]⟩ =
        .ok (decide (Pattern.Matches '!' "%50!% off%".toList (lowercase subject).toList))) ∧
      Pattern.Matches '!' "%50!% off%".toList (lowercase "Now 50% OFF").toList ∧
      ¬ Pattern.Matches '!' "%50!% off%".toList (lowercase "Now 500 OFF").toList := by
  intro settings discount
  have valid : Validation.filter discount = .ok () := by decide
  refine ⟨⟨by decide, by decide, valid⟩, ?_⟩
  have written : (BuiltIn.filter .standard discount settings (.root .default none)).1.toOption.map
      (fun resolved => match resolved with | .fragment text => text | _ => "") =
        some "lower(label) LIKE :p0001 ESCAPE '!'" := by
    decide +kernel
  have values : (BuiltIn.filter .standard discount settings
      (.root .default none)).2.parameters.values.map Value.toText = ["%50!% off%"] := by
    decide +kernel
  cases run : BuiltIn.filter .standard discount settings (.root .default none) with
  | mk outcome after =>
      rw [run] at written values
      obtain ⟨resolved, rfl, text⟩ := Except.exists_ok_of_map_toOption written
      obtain ⟨subject, name, pattern, rfl, bound, means⟩ :=
        (stringMatch_pattern_means (by decide : '%' ≠ '!')).2 settings .standard _ after _ _ _ _
          _ rfl (by decide) valid run
      obtain rfl : pattern = "%50!% off%" := by
        have last := congrArg List.getLast? values
        simpa [ParameterTable.values, List.getLast?_map, bound, Parameter.of, Value.toText]
          using last
      have text : subject ++ " LIKE " ++ settings.dialect.referenceTo name ++ " " ++
          settings.dialect.escapeSuffix = "lower(label) LIKE :p0001 ESCAPE '!'" := text
      exact ⟨⟨after, by rw [text], values⟩, fun subject => means _ subject rfl,
        by decide +kernel, by decide +kernel⟩

end ObjectQuery
