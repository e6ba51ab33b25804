import ObjectQuery.Expression.Validation
import ObjectQuery.Proofs.Phrases.Patterns
import ObjectQuery.Proofs.Phrases.Syntax

/-!
# What phrases mean

A phrase holds for a row or it does not; nothing is an error. A term without a value passes no
test. Where a valid filter decides a row at all, it decides as its phrase does, so that filters
with one phrase decide alike.
-/

namespace ObjectQuery

open Text

namespace Phrase

/-- The value of a term for a row, if it has one. -/
def Term.value? (row : PropertyRow) : Term → Option Value
  | .name text => row.get? text
  | .null => some .null
  | .value bound => some bound
  | .word _ => none
  | .call kind _ argument =>
      (argument.value? row).bind fun value => (Evaluation.applied kind value).toOption

/-- The values among which members search, as one value. -/
def Members.candidates? (row : PropertyRow) : Members → Option Value
  | .listed first rest => some (.list (first :: rest))
  | .single only => only.value? row

/-- Whether a predicate holds of a value. -/
def Predicate.Holds (escape : Char) (row : PropertyRow) (subject : Value) : Predicate → Prop
  | .isNull negated => subject.isNull = !negated
  | .compare operator right =>
      ∃ value, right.value? row = some value ∧ operator.holds subject value = true
  | .between lower upper =>
      ∃ least greatest, lower.value? row = some least ∧ upper.value? row = some greatest ∧
        (CompareOperator.greater true).holds subject least = true ∧
          (CompareOperator.less true).holds subject greatest = true
  | .isIn negated members =>
      subject.isNull = false ∧ ∃ candidates, members.candidates? row = some candidates ∧
        Evaluation.isMember subject candidates = !negated
  | .like pattern =>
      ∃ text mode needle, subject = .string text ∧
        pattern = Pattern.wrap mode (Pattern.escape needle escape) ∧
          mode.holds text needle = true

mutual

/-- Whether a condition holds for a row. -/
def Condition.Holds (escape : Char) (row : PropertyRow) : Condition → Prop
  | .test subject predicate =>
      ∃ value, subject.value? row = some value ∧ predicate.Holds escape row value
  | .junction true first rest =>
      Condition.Holds escape row first ∧ Condition.AllHold escape row rest
  | .junction false first rest =>
      Condition.Holds escape row first ∨ Condition.SomeHold escape row rest
  | .not condition => ¬ Condition.Holds escape row condition

/-- Whether every condition holds for a row. -/
def Condition.AllHold (escape : Char) (row : PropertyRow) : List Condition → Prop
  | [] => True
  | first :: rest => Condition.Holds escape row first ∧ Condition.AllHold escape row rest

/-- Whether some condition holds for a row. -/
def Condition.SomeHold (escape : Char) (row : PropertyRow) : List Condition → Prop
  | [] => False
  | first :: rest => Condition.Holds escape row first ∨ Condition.SomeHold escape row rest

end

end Phrase

open Phrase

variable {row : PropertyRow}

mutual

/-- The value of an operand is the value of its term. -/
theorem Expression.value?_term :
    ∀ {operand : Expression} {value : Value}, Evaluation.operand row operand = .ok value →
      operand.term.value? row = some value
  | .path found, value, evaluated => by
      simp only [Evaluation.operand] at evaluated
      split at evaluated
      · next held got => simpa [Expression.term, Term.value?, got] using evaluated
      · simp at evaluated
  | .constant held, value, evaluated => by
      obtain rfl : held = value := by simpa [Evaluation.operand] using evaluated
      cases held <;> rfl
  | .function call, value, evaluated => by
      rw [Evaluation.operand] at evaluated
      rw [Expression.term]
      exact Expression.value?_callTerm evaluated
  | .subQuery _, _, evaluated | .filter _, _, evaluated | .sort _, _, evaluated
  | .aggregation _, _, evaluated | .projection _, _, evaluated | .target _, _, evaluated
  | .custom _, _, evaluated => by simp [Evaluation.operand] at evaluated

/-- The value of a call is the value of its term. -/
theorem Expression.value?_callTerm :
    ∀ {call : FunctionCall} {value : Value}, Evaluation.function row call = .ok value →
      (Expression.callTerm call).value? row = some value
  | .mk kind [] _, _, evaluated => by simp [Evaluation.function] at evaluated
  | .mk kind [argument] distinct, value, evaluated => by
      rw [Evaluation.function] at evaluated
      obtain ⟨found, argumentEvaluated, applies⟩ := Except.bind_ok_iff.mp evaluated
      have argumentValue := Expression.value?_term argumentEvaluated
      simp [Expression.callTerm, Term.value?, argumentValue, applies, Except.toOption]
  | .mk kind (_ :: _ :: _) _, _, evaluated => by simp [Evaluation.function] at evaluated

end

/-- Null is no member. -/
theorem Evaluation.isMember_of_isNull
    {value : Value}
    (isNull : value.isNull = true)
    (candidates : Value) :
    isMember value candidates = false := by
  obtain rfl : value = .null := by
    cases value <;> simp_all [Value.isNull]
  simp [isMember, Value.compare?]

/-- What is searched is what its members search. -/
theorem Expression.candidates?_members
    {searched : Expression}
    {candidates : Value}
    (evaluated : Evaluation.operand row searched = .ok candidates) :
    ∃ found, searched.members.candidates? row = some found ∧
      ∀ value, Evaluation.isMember value found = Evaluation.isMember value candidates := by
  have ofTerm : searched.members = .single searched.term →
      ∃ found, searched.members.candidates? row = some found ∧
        ∀ value, Evaluation.isMember value found = Evaluation.isMember value candidates := by
    intro single
    refine ⟨candidates, ?_, fun _ => rfl⟩
    rw [single]
    exact Expression.value?_term evaluated
  cases searched with
  | constant held =>
      obtain rfl : held = candidates := by simpa [Evaluation.operand] using evaluated
      cases held with
      | null => exact ofTerm rfl
      | list items =>
          cases items with
          | nil => exact ⟨.null, rfl, fun value => by cases value <;> rfl⟩
          | cons first rest => exact ⟨_, rfl, fun _ => rfl⟩
      | _ => exact ⟨_, rfl, fun _ => rfl⟩
  | _ => exact ofTerm rfl

namespace Filter

variable {dialect : Dialect}

/-- The pattern of a match is one of the text in small letters where case does not count. -/
theorem matchPattern_eq
    (mark : isPunctuation dialect.escapeCharacter = true)
    (text : String)
    (mode : MatchMode)
    (ignoreCase : Bool) :
    BuiltIn.matchPattern dialect text mode ignoreCase =
      Pattern.wrap mode (Pattern.escape (if ignoreCase then lowercase text else text)
        dialect.escapeCharacter) := by
  cases ignoreCase with
  | false => rfl
  | true => simp [BuiltIn.matchPattern, Dialect.escapePattern, lowercase_escape mark]

/-- A pattern holds of the texts that match the text it was made from. -/
theorem holds_like_iff
    (noWildcard : dialect.escapeCharacter ≠ '%')
    (subject : Value)
    (mode : MatchMode)
    (needle : String) :
    (Predicate.like (Pattern.wrap mode (Pattern.escape needle dialect.escapeCharacter))).Holds
        dialect.escapeCharacter row subject ↔
      Evaluation.matchesText mode false subject (.string needle) = true := by
  cases subject with
  | string text =>
      refine ⟨?_, fun matched => ⟨text, mode, needle, rfl, rfl, matched⟩⟩
      rintro ⟨text', mode', needle', sameText, samePattern, matched⟩
      obtain rfl := Value.string.inj sameText
      have sameAnswer := MatchMode.holds_eq_of_wrap_eq noWildcard samePattern text
      simpa [Evaluation.matchesText, sameAnswer] using matched
  | _ => simp [Predicate.Holds, Evaluation.matchesText]

/-- A string match holds as its pattern does of what is matched. -/
theorem holds_stringMatch
    (mark : isPunctuation dialect.escapeCharacter = true)
    (noWildcard : dialect.escapeCharacter ≠ '%')
    {left value : Expression}
    {mode : MatchMode}
    {ignoreCase met : Bool}
    (isText : Validation.matchedValue value = .ok ())
    (evaluated : Evaluation.filter row (.stringMatch left value mode ignoreCase) = .ok met) :
    ((stringMatch left value mode ignoreCase).phrase dialect).Holds dialect.escapeCharacter row ↔
      met = true := by
  obtain ⟨needle, rfl⟩ : ∃ needle, value = .constant (.string needle) := by
    unfold Validation.matchedValue at isText
    split at isText
    · exact ⟨_, rfl⟩
    · simp [Validation.fail] at isText
    · simp [Validation.fail] at isText
  rw [Evaluation.filter] at evaluated
  obtain ⟨subject, found, rfl⟩ : ∃ subject, Evaluation.operand row left = .ok subject ∧
      Evaluation.matchesText mode ignoreCase subject (.string needle) = met := by
    simpa [Except.bind_ok_iff, Evaluation.operand] using evaluated
  have leftValue := Expression.value?_term found
  have text : (Expression.constant (.string needle)).needle = needle := rfl
  rw [phrase, text, matchPattern_eq mark]
  cases ignoreCase with
  | false => simp [Condition.Holds, leftValue, holds_like_iff noWildcard]
  | true =>
      cases subject with
      | string _ | null =>
          simp [Condition.Holds, Term.value?, leftValue, Evaluation.applied, Except.toOption,
            holds_like_iff noWildcard, Evaluation.matchesText]
      | _ =>
          simp [Condition.Holds, Term.value?, leftValue, Evaluation.applied, Except.toOption,
            Evaluation.matchesText]

mutual

/-- A valid filter that decides a row decides it as its phrase does. -/
theorem holds_phrase
    (mark : isPunctuation dialect.escapeCharacter = true)
    (noWildcard : dialect.escapeCharacter ≠ '%') :
    ∀ {condition : Filter} {met : Bool}, Validation.filter condition = .ok () →
      Evaluation.filter row condition = .ok met →
        ((condition.phrase dialect).Holds dialect.escapeCharacter row ↔ met = true)
  | .isNull tested, met, _, evaluated => by
      rw [Evaluation.filter] at evaluated
      obtain ⟨value, found, rfl⟩ : ∃ value, Evaluation.operand row tested = .ok value ∧
          value.isNull = met := by simpa [Except.bind_ok_iff] using evaluated
      simp [phrase, Condition.Holds, Predicate.Holds, Expression.value?_term found]
  | .isNotNull tested, met, _, evaluated => by
      rw [Evaluation.filter] at evaluated
      obtain ⟨value, found, rfl⟩ : ∃ value, Evaluation.operand row tested = .ok value ∧
          (!value.isNull) = met := by simpa [Except.bind_ok_iff] using evaluated
      simp [phrase, Condition.Holds, Predicate.Holds, Expression.value?_term found]
  | .compare left operator right, met, _, evaluated => by
      rw [Evaluation.filter] at evaluated
      obtain ⟨value, found, value', found', rfl⟩ : ∃ value,
          Evaluation.operand row left = .ok value ∧ ∃ value',
            Evaluation.operand row right = .ok value' ∧ operator.holds value value' = met := by
        simpa [Except.bind_ok_iff] using evaluated
      simp [phrase, Condition.Holds, Predicate.Holds, Expression.value?_term found,
        Expression.value?_term found']
  | .between tested lower upper, met, _, evaluated => by
      rw [Evaluation.filter] at evaluated
      obtain ⟨value, found, least, foundLeast, greatest, foundGreatest, rfl⟩ : ∃ value,
          Evaluation.operand row tested = .ok value ∧ ∃ least,
            Evaluation.operand row lower = .ok least ∧ ∃ greatest,
              Evaluation.operand row upper = .ok greatest ∧
                ((CompareOperator.greater true).holds value least &&
                  (CompareOperator.less true).holds value greatest) = met := by
        simpa [Except.bind_ok_iff] using evaluated
      simp [phrase, Condition.Holds, Predicate.Holds, Expression.value?_term found,
        Expression.value?_term foundLeast, Expression.value?_term foundGreatest]
  | .isIn left right, met, _, evaluated => by
      rw [Evaluation.filter] at evaluated
      obtain ⟨value, found, searched, foundSearched, rfl⟩ : ∃ value,
          Evaluation.operand row left = .ok value ∧ ∃ searched,
            Evaluation.operand row right = .ok searched ∧
              Evaluation.isMember value searched = met := by
        simpa [Except.bind_ok_iff] using evaluated
      obtain ⟨candidates, members, same⟩ := Expression.candidates?_members foundSearched
      cases isNull : value.isNull with
      | true =>
          simp [phrase, Condition.Holds, Predicate.Holds, Expression.value?_term found, isNull,
            Evaluation.isMember_of_isNull isNull]
      | false =>
          simp [phrase, Condition.Holds, Predicate.Holds, Expression.value?_term found, isNull,
            members, same]
  | .isNotIn left right, met, _, evaluated => by
      rw [Evaluation.filter] at evaluated
      obtain ⟨value, found, decides⟩ := Except.bind_ok_iff.mp evaluated
      cases isNull : value.isNull with
      | true =>
          obtain rfl : false = met := by simpa [isNull] using decides
          simp [phrase, Condition.Holds, Predicate.Holds, Expression.value?_term found, isNull]
      | false =>
          obtain ⟨searched, foundSearched, rfl⟩ : ∃ searched,
              Evaluation.operand row right = .ok searched ∧
                (!Evaluation.isMember value searched) = met := by
            simpa [isNull, Except.bind_ok_iff] using decides
          obtain ⟨candidates, members, same⟩ := Expression.candidates?_members foundSearched
          simp [phrase, Condition.Holds, Predicate.Holds, Expression.value?_term found, isNull,
            members, same]
  | .stringMatch left value mode ignoreCase, met, valid, evaluated => by
      simp only [Validation.filter, Validation.andThen_ok_iff] at valid
      exact holds_stringMatch mark noWildcard valid.2.2 evaluated
  | .and [], met, _, evaluated => by
      obtain rfl : true = met := by simpa [Evaluation.filter, Evaluation.all] using evaluated
      simp [phrase, Condition.Holds, Predicate.Holds, Term.value?, Value.isNull]
  | .and (first :: rest), met, valid, evaluated => by
      have conditions : Condition.AllHold dialect.escapeCharacter row
          (phrases dialect (first :: rest)) ↔ met = true :=
        allHold_phrases mark noWildcard valid (by simpa [Evaluation.filter] using evaluated)
      simpa [phrase, phrases, Condition.Holds, Condition.AllHold] using conditions
  | .or [], met, _, evaluated => by
      obtain rfl : false = met := by simpa [Evaluation.filter, Evaluation.any] using evaluated
      simp [phrase, Condition.Holds, Predicate.Holds, Term.value?, Value.isNull]
  | .or (first :: rest), met, valid, evaluated => by
      have conditions : Condition.SomeHold dialect.escapeCharacter row
          (phrases dialect (first :: rest)) ↔ met = true :=
        someHold_phrases mark noWildcard valid (by simpa [Evaluation.filter] using evaluated)
      -- The disjunction of one condition is written as a conjunction would be.
      cases rest with
      | nil =>
          simpa [phrase, phrases, Condition.Holds, Condition.AllHold, Condition.SomeHold]
            using conditions
      | cons second rest =>
          simpa [phrase, phrases, Condition.Holds, Condition.SomeHold] using conditions
  | .not condition, met, valid, evaluated => by
      rw [Evaluation.filter] at evaluated
      obtain ⟨inner, found, rfl⟩ : ∃ inner, Evaluation.filter row condition = .ok inner ∧
          (!inner) = met := by simpa [Except.bind_ok_iff] using evaluated
      have validInner : Validation.filter condition = .ok () := by
        simpa [Validation.filter] using valid
      have holds := holds_phrase mark noWildcard validInner found
      simp [phrase, Condition.Holds, holds]
  | .hasRows _, _, _, evaluated | .hasNoRows _, _, _, evaluated => by
      simp [Evaluation.filter] at evaluated

/-- Valid filters that all hold are filters whose phrases all hold. -/
theorem allHold_phrases
    (mark : isPunctuation dialect.escapeCharacter = true)
    (noWildcard : dialect.escapeCharacter ≠ '%') :
    ∀ {conditions : List Filter} {met : Bool}, Validation.filters conditions = .ok () →
      Evaluation.all row conditions = .ok met →
        (Condition.AllHold dialect.escapeCharacter row (phrases dialect conditions) ↔ met = true)
  | [], met, _, evaluated => by
      obtain rfl : true = met := by simpa [Evaluation.all] using evaluated
      simp [phrases, Condition.AllHold]
  | first :: rest, met, valid, evaluated => by
      simp only [Validation.filters, Validation.andThen_ok_iff] at valid
      rw [Evaluation.all] at evaluated
      obtain ⟨firstMet, found, decides⟩ := Except.bind_ok_iff.mp evaluated
      have holds := holds_phrase mark noWildcard valid.1 found
      cases firstMet with
      | true =>
          have others := allHold_phrases mark noWildcard valid.2 (by simpa using decides)
          simp [phrases, Condition.AllHold, holds, others]
      | false =>
          obtain rfl : false = met := by simpa using decides
          simp [phrases, Condition.AllHold, holds]

/-- Valid filters of which some hold are filters of whose phrases some hold. -/
theorem someHold_phrases
    (mark : isPunctuation dialect.escapeCharacter = true)
    (noWildcard : dialect.escapeCharacter ≠ '%') :
    ∀ {conditions : List Filter} {met : Bool}, Validation.filters conditions = .ok () →
      Evaluation.any row conditions = .ok met →
        (Condition.SomeHold dialect.escapeCharacter row (phrases dialect conditions) ↔ met = true)
  | [], met, _, evaluated => by
      obtain rfl : false = met := by simpa [Evaluation.any] using evaluated
      simp [phrases, Condition.SomeHold]
  | first :: rest, met, valid, evaluated => by
      simp only [Validation.filters, Validation.andThen_ok_iff] at valid
      rw [Evaluation.any] at evaluated
      obtain ⟨firstMet, found, decides⟩ := Except.bind_ok_iff.mp evaluated
      have holds := holds_phrase mark noWildcard valid.1 found
      cases firstMet with
      | true =>
          obtain rfl : true = met := by simpa using decides
          simp [phrases, Condition.SomeHold, holds]
      | false =>
          have others := someHold_phrases mark noWildcard valid.2 (by simpa using decides)
          simp [phrases, Condition.SomeHold, holds, others]

end

end Filter

end ObjectQuery
