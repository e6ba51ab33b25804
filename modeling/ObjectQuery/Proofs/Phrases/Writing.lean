import ObjectQuery.Proofs.Ensures
import ObjectQuery.Proofs.Phrases.Syntax

/-!
# Filters are written as their phrases

The mutual induction over plain filters: where no target is bound and functions have their
standard spellings, the text of a filter is the characters of its phrase, and the parameters
bound with it are the values of the phrase. The phrase is one that is written.
-/

namespace ObjectQuery
namespace Phrase

open Resolution BuiltIn

/-! ## Written steps -/

/-- A text of some characters, which depend on the parameters before it, was written and some
values bound, while still no target is. -/
structure Written
    (characters : Nat → List Char)
    (values : List Value)
    (before : Context)
    (text : List Char)
    (after : Context) : Prop where
  spelled : text = characters before.parameters.size
  bound : after.parameters.values = before.parameters.values ++ values
  untargeted : after.rootTarget? = none

variable
  {settings : Settings}
  {before between after : Context}
  {characters characters' : Nat → List Char}
  {values values' : List Value}
  {text text' : List Char}

namespace Written

theorem size (written : Written characters values before text after) :
    after.parameters.size = before.parameters.size + values.length := by
  have lengths := congrArg List.length written.bound
  simpa [ParameterTable.values, ParameterTable.size] using lengths

/-- Words bind nothing. -/
theorem words (untargeted : before.rootTarget? = none) (text : List Char) :
    Written (fun _ => text) [] before text before :=
  ⟨rfl, by simp, untargeted⟩

/-- One text after the other is written as their characters follow each other. -/
theorem append
    (first : Written characters values before text between)
    (second : Written characters' values' between text' after) :
    Written (fun bound => characters bound ++ characters' (bound + values.length))
      (values ++ values') before (text ++ text') after := by
  refine ⟨?_, ?_, second.untargeted⟩
  · rw [first.spelled, second.spelled, first.size]
  · rw [second.bound, first.bound, List.append_assoc]

end Written

/-- Whatever the step writes where no target is bound, it writes of some characters and values. -/
def WritesAs
    (settings : Settings)
    (characters : Nat → List Char)
    (values : List Value)
    (step : Resolution String) : Prop :=
  ∀ before, before.rootTarget? = none → step.Ensures settings before fun text after =>
    Written characters values before text.toList after

/-- Whatever fragment the step answers where no target is bound. -/
def AnswersAs
    (settings : Settings)
    (characters : Nat → List Char)
    (values : List Value)
    (step : Resolution Resolved) : Prop :=
  ∀ before, before.rootTarget? = none → step.Ensures settings before
    (Resolved.Ensures (fun text after => Written characters values before text.toList after)
      fun _ _ => True)

theorem WritesAs.answers
    {step : Resolution String}
    (writes : WritesAs settings characters values step) :
    AnswersAs settings characters values (do let text ← step; return .fragment text) :=
  fun before untargeted => (writes before untargeted).bind fun _ _ written => .pure written

theorem WritesAs.withHint
    {hint : ValueType}
    {step : Resolution String}
    (writes : WritesAs settings characters values step) :
    WritesAs settings characters values (Resolution.withHint hint step) :=
  fun before untargeted => .withHint ((writes { before with hint := some hint } untargeted).weaken
    fun _ _ written => ⟨written.spelled, written.bound, written.untargeted⟩)

section Registry

variable
  {expression : Expression}
  {own : Resolution Resolved}
  (owns : expression.validate = .ok () → AnswersAs settings characters values own)

include owns

theorem writesAs_fragment :
    WritesAs settings characters values (Resolvers.standard.fragment expression own) :=
  fun before untargeted =>
    (Resolvers.fragment_ensures fun valid => owns valid before untargeted).weaken
      fun _ _ taken => taken.2

theorem writesAs_predicate :
    WritesAs settings characters values (Resolvers.standard.predicate expression own) :=
  fun before untargeted =>
    (Resolvers.predicate_ensures fun valid => owns valid before untargeted).weaken
      fun _ _ taken => taken.2

end Registry

/-! ## References -/

theorem newReference_writesAs (value : Value) (valueType : ValueType) :
    WritesAs settings (reference settings.dialect) [value] (newReference value valueType) := by
  intro before untargeted text after run
  obtain ⟨rfl, rfl⟩ : settings.dialect.referenceTo
      (settings.dialect.numberedName (before.parameters.size + 1)) = text ∧ _ = after := by
    simpa [newReference, newParameter, Resolution.dialect, bind_apply] using run
  exact ⟨rfl, by simp [ParameterTable.push, ParameterTable.values, Parameter.of], untargeted⟩

theorem bindValue_writesAs (value : Value) :
    WritesAs settings (reference settings.dialect) [value] (bindValue value) :=
  fun before untargeted => .bindContext (newReference_writesAs value _ before untargeted)

/-- The items behind the first one of a list, each after a comma. -/
theorem bindItems_ensures (items : List Value) :
    ∀ before, before.rootTarget? = none → (bindItems items).Ensures settings before
      fun texts after => Written (fun bound => otherReferences settings.dialect bound items) items
        before (texts.flatMap fun text => ',' :: text.toList) after := by
  induction items with
  | nil => exact fun before untargeted => .pure (Written.words untargeted [])
  | cons item rest inductionHypothesis =>
      intro before untargeted
      refine (bindValue_writesAs item before untargeted).bind fun text between written => ?_
      refine (inductionHypothesis between written.untargeted).bind
        fun texts after others => .pure ?_
      have comma := (Written.words untargeted [',']).append (written.append others)
      simpa [otherReferences] using comma

/-- Texts with something between them are the first one and the others, each after it. -/
theorem toList_intercalate_cons (separator first : String) (rest : List String) :
    (separator.intercalate (first :: rest)).toList =
      first.toList ++ rest.flatMap fun text => separator.toList ++ text.toList := by
  induction rest generalizing first with
  | nil => simp
  | cons second rest inductionHypothesis =>
      rw [String.intercalate_cons_cons]
      simp [inductionHypothesis]

theorem bindList_writesAs (first : Value) (rest : List Value) :
    WritesAs settings ((Members.listed first rest).characters settings.dialect) (first :: rest)
      (constant (.list (first :: rest))) := by
  intro before untargeted
  have references : (bindItems (first :: rest)).Ensures settings before fun texts after =>
      Written ((Members.listed first rest).characters settings.dialect) (first :: rest) before
        (",".intercalate texts).toList after := by
    refine (bindValue_writesAs first before untargeted).bind fun text between written => ?_
    refine (bindItems_ensures rest between written.untargeted).bind fun texts after others =>
      .pure ?_
    rw [toList_intercalate_cons]
    exact written.append others
  exact references.bind fun texts after written => .pure written

/-! ## Operands -/

/-- What a term is written as. -/
def Writes (settings : Settings) (term : Term) (step : Resolution String) : Prop :=
  WritesAs settings (term.characters settings.dialect) term.values step

theorem path_writes {found : Path} (unqualified : found.qualifier? = none) :
    Writes settings (.name found.fullName) (path found) := by
  intro before untargeted
  have noAlias : (owningAlias found).Ensures settings before fun aliasName after =>
      aliasName = none ∧ after = before := by
    unfold owningAlias
    rw [unqualified]
    exact .bindContext (.pure ⟨by simp [untargeted], rfl⟩)
  refine noAlias.bind fun aliasName after noName => ?_
  obtain ⟨rfl, rfl⟩ := noName
  exact .pure (Written.words untargeted _)

theorem constant_writes {value : Value} (noList : value.isList = false) :
    Writes settings (Expression.constant value).term (constant value) := by
  cases value with
  | null => exact fun before untargeted => .pure (Written.words untargeted _)
  | list items => simp [Value.isList] at noList
  | _ => exact bindValue_writesAs _

theorem spelled_word_writes
    (standard : settings.dialect.functions = .standard)
    {kind : FunctionKind}
    (nullary : kind.arity = 0)
    (distinct : Bool) :
    Writes settings (.word kind) (spelled kind [] distinct) := by
  intro before untargeted
  refine .bindDialect (.ofExcept fun text written => ?_)
  rw [Dialect.callText, standard, SpellingRegistry.standard_word _ nullary] at written
  obtain rfl : kind.word = text := by simpa using written
  exact Written.words untargeted _

/-- A call of a written argument, whatever its characters are. -/
theorem spelled_writes
    (standard : settings.dialect.functions = .standard)
    {kind : FunctionKind}
    (unary : kind.arity = 1)
    (distinct : Bool)
    {argument : String}
    {term : Term}
    (written : Written (term.characters settings.dialect) term.values before argument.toList
      between) :
    (spelled kind [argument] distinct).Ensures settings between fun text after =>
      Written ((Term.call kind distinct term).characters settings.dialect) term.values before
        text.toList after := by
  refine .bindDialect (.ofExcept fun text found => ?_)
  rw [Dialect.callText, standard, SpellingRegistry.standard_call _ unary] at found
  obtain rfl := Except.ok.inj found
  refine ⟨?_, written.bound, written.untargeted⟩
  have marks : ((if distinct then "DISTINCT " else "") ++ argument).toList =
      marked distinct (term.characters settings.dialect before.parameters.size) := by
    rw [← written.spelled]
    cases distinct <;> simp [marked]
  rw [Term.characters, String.toList_append, String.toList_append, marks]
  simp

theorem fragments_nil_ensures (before : Context) :
    (fragments .standard []).Ensures settings before fun texts after =>
      texts = [] ∧ after = before := by
  rw [fragments]
  exact .pure ⟨rfl, rfl⟩

mutual

theorem operand_writes
    (standard : settings.dialect.functions = .standard) :
    ∀ {operand : Expression}, operand.IsPlain → operand.validate = .ok () →
      AnswersAs settings (operand.term.characters settings.dialect) operand.term.values
        (answer .standard operand)
  | .path found, plain, _ => by
      rw [answer]
      exact (path_writes plain.1).answers
  | .constant value, plain, _ => by
      rw [answer]
      exact (constant_writes plain).answers
  | .function call, plain, valid => by
      rw [answer]
      exact (call_writes standard plain valid).answers
  | .subQuery _, plain, _ | .filter _, plain, _ | .sort _, plain, _ | .aggregation _, plain, _
  | .projection _, plain, _ | .target _, plain, _ | .custom _, plain, _ => plain.elim

theorem call_writes
    (standard : settings.dialect.functions = .standard) :
    ∀ {call : FunctionCall}, Expression.IsPlainCall call → Validation.function call = .ok () →
      Writes settings (Expression.callTerm call) (BuiltIn.function .standard call)
  | .mk kind [] distinct, _, valid => by
      rw [BuiltIn.function]
      exact spelled_word_writes standard (Validation.length_of_function valid).symm distinct
  | .mk kind [argument] distinct, plain, valid => by
      rw [BuiltIn.function]
      intro before untargeted
      have arguments : (fragments .standard [argument]).Ensures settings before
          fun texts after => ∃ text, texts = [text] ∧
            Written (argument.term.characters settings.dialect) argument.term.values before
              text.toList after := by
        rw [fragments]
        refine (writesAs_fragment (operand_writes standard plain.1) before untargeted).bind
          fun text after written => ?_
        exact (fragments_nil_ensures after).bind fun texts after' nothing => .pure <| by
          obtain ⟨rfl, rfl⟩ := nothing
          exact ⟨text, rfl, written⟩
      refine arguments.bind fun texts between found => ?_
      obtain ⟨text, rfl, written⟩ := found
      exact spelled_writes standard (Validation.length_of_function valid).symm distinct written
  | .mk kind (_ :: _ :: _) _, _, valid => by
      have arity := Validation.length_of_function valid
      rcases kind.arity_cases with none | one <;> simp_all

end

theorem fragment_writes
    (standard : settings.dialect.functions = .standard)
    {operand : Expression}
    (plain : operand.IsPlain) :
    Writes settings operand.term
      (Resolvers.standard.fragment operand (answer .standard operand)) :=
  writesAs_fragment (operand_writes standard plain)

theorem enclose_of_isPlain {operand : Expression} (plain : operand.IsPlain) (text : String) :
    enclose operand text = text := by
  cases operand with
  | subQuery query => exact plain.elim
  | _ => rfl

/-- What is searched is written as its members are. -/
theorem members_writes
    (standard : settings.dialect.functions = .standard)
    {searched : Expression}
    (searchable : searched.IsSearchable)
    (valid : Validation.memberRole searched = .ok ()) :
    WritesAs settings (searched.members.characters settings.dialect) searched.members.values
      (Resolvers.standard.fragment searched (answer .standard searched)) := by
  cases searched with
  | constant held =>
      refine writesAs_fragment fun _ => ?_
      rw [answer]
      refine WritesAs.answers ?_
      cases held with
      | list items =>
          cases items with
          | nil => simp [Validation.memberRole, Validation.memberList] at valid
          | cons first rest => exact bindList_writesAs first rest
      | null => exact constant_writes rfl
      | _ =>
          have bound : ∀ value, WritesAs settings
              ((Members.listed value []).characters settings.dialect) [value]
              (bindValue value) := by
            intro value
            simpa [Members.characters, otherReferences] using bindValue_writesAs value
          exact bound _
  | path _ | function _ => exact fragment_writes standard searchable
  | _ => exact searchable.elim

/-! ## Conditions -/

/-- What a condition is answered as. -/
def Answers (settings : Settings) (condition : Condition) (step : Resolution Resolved) : Prop :=
  AnswersAs settings (fun bound => condition.characters settings.dialect bound) condition.values
    step

/-- A test is its subject, the words of its form and the rest. -/
theorem test_written
    {dialect : Dialect}
    {subject : Term}
    {predicate : Predicate}
    (writtenSubject : Written (subject.characters dialect) subject.values before text between)
    (writtenRest : Written (fun bound => predicate.remainder dialect bound) predicate.values
      between text' after)
    {whole : String}
    (spelled : whole.toList = text ++ (predicate.form.keyword.toList ++ text')) :
    Written (fun bound => (Condition.test subject predicate).characters dialect bound)
      (Condition.test subject predicate).values before whole.toList after := by
  have keyword := Written.words writtenSubject.untargeted predicate.form.keyword.toList
  rw [spelled]
  simpa [Condition.characters, Condition.values] using
    writtenSubject.append (keyword.append writtenRest)

/-- A string match is a test of its left side, in small letters where case does not count. -/
theorem matchText_ensures
    (standard : settings.dialect.functions = .standard)
    {left : String}
    {term : Term}
    (written : Written (term.characters settings.dialect) term.values before left.toList between)
    (text : String)
    (mode : MatchMode)
    (ignoreCase : Bool) :
    (matchText left text mode ignoreCase).Ensures settings between fun whole after =>
      Written
        (fun bound => (Condition.test (if ignoreCase then .call .lower false term else term)
          (.like (matchPattern settings.dialect text mode ignoreCase))).characters
            settings.dialect bound)
        (Condition.test (if ignoreCase then .call .lower false term else term)
          (.like (matchPattern settings.dialect text mode ignoreCase))).values
        before whole.toList after := by
  have subjects : (matchSubject left ignoreCase).Ensures settings between fun subject after =>
      Written ((if ignoreCase then Term.call .lower false term else term).characters
          settings.dialect)
        (if ignoreCase then Term.call .lower false term else term).values before subject.toList
        after := by
    cases ignoreCase with
    | true => exact spelled_writes standard rfl false written
    | false => exact .pure written
  refine .bindDialect (subjects.bind fun subject between' writtenSubject => ?_)
  refine (newReference_writesAs _ _ between' writtenSubject.untargeted).bind
    fun reference after writtenReference => .pure ?_
  have suffix := writtenReference.append (Written.words writtenReference.untargeted
    (" " ++ settings.dialect.escapeSuffix).toList)
  apply test_written writtenSubject
  · exact suffix
  · simp [Predicate.form, Form.keyword]

/-- The word between the conditions of a junction. -/
def word (conjunctive : Bool) : String :=
  if conjunctive then "AND" else "OR"

theorem toList_joinConditions (conjunctive : Bool) (first : String) (rest : List String) :
    (joinConditions (word conjunctive) (first :: rest)).toList =
      '(' :: (first.toList ++ ')' :: rest.flatMap fun text =>
        separator conjunctive ++ (text.toList ++ [')'])) := by
  rw [joinConditions, List.map_cons, toList_intercalate_cons]
  cases conjunctive <;> simp [word, separator, List.flatMap_map]

/-- A junction is its first condition, and the others each after the word. -/
theorem junction_written
    {dialect : Dialect}
    {conjunctive : Bool}
    {condition : Condition}
    {conditions : List Condition}
    {first : String}
    {rest : List String}
    (untargeted : before.rootTarget? = none)
    (writtenFirst : Written (fun bound => condition.characters dialect bound) condition.values
      before first.toList between)
    (writtenRest : Written (fun bound => Condition.others dialect conjunctive bound conditions)
      (Condition.allValues conditions) between
      (rest.flatMap fun text => separator conjunctive ++ (text.toList ++ [')'])) after) :
    Written
      (fun bound => (Condition.junction conjunctive condition conditions).characters dialect bound)
      (Condition.junction conjunctive condition conditions).values before
      (joinConditions (word conjunctive) (first :: rest)).toList after := by
  rw [toList_joinConditions]
  have opened := (Written.words untargeted ['(']).append writtenFirst
  have closed := (Written.words writtenFirst.untargeted [')']).append writtenRest
  simpa [Condition.characters, Condition.values] using opened.append closed

mutual

theorem filter_answers
    (standard : settings.dialect.functions = .standard) :
    ∀ {condition : Filter}, condition.IsPlain → Validation.filter condition = .ok () →
      Answers settings (condition.phrase settings.dialect) (filter .standard condition)
  | .isNull operand, plain, _ | .isNotNull operand, plain, _ => by
      rw [filter, Filter.phrase]
      intro before untargeted
      refine (fragment_writes standard plain before untargeted).bind fun text after written =>
        .pure ?_
      apply test_written written
      · exact Written.words written.untargeted []
      · simp [enclose_of_isPlain plain, Predicate.form, Form.keyword]
  | .compare left operator right, plain, _ => by
      rw [filter, Filter.phrase]
      intro before untargeted
      refine (fragment_writes standard plain.1 before untargeted).bind
        fun leftText between writtenLeft => ?_
      refine ((fragment_writes standard plain.2).withHint between writtenLeft.untargeted).bind
        fun rightText after writtenRight => .pure ?_
      apply test_written writtenLeft
      · exact writtenRight
      · simp [enclose_of_isPlain plain.1, enclose_of_isPlain plain.2, Predicate.form, Form.keyword]
  | .between operand lower upper, plain, _ => by
      rw [filter, Filter.phrase]
      intro before untargeted
      refine (fragment_writes standard plain.1 before untargeted).bind
        fun text between written => ?_
      refine ((fragment_writes standard plain.2.1).withHint between written.untargeted).bind
        fun lowerText between' writtenLower => ?_
      refine ((fragment_writes standard plain.2.2).withHint between' writtenLower.untargeted).bind
        fun upperText after writtenUpper => .pure ?_
      apply test_written written
      · exact writtenLower.append
          ((Written.words writtenLower.untargeted " AND ".toList).append writtenUpper)
      · simp [enclose_of_isPlain plain.1, enclose_of_isPlain plain.2.1,
          enclose_of_isPlain plain.2.2, Predicate.form, Form.keyword]
  | .isIn left right, plain, valid | .isNotIn left right, plain, valid => by
      simp only [Validation.filter, Validation.andThen_ok_iff] at valid
      rw [filter, Filter.phrase]
      intro before untargeted
      refine (fragment_writes standard plain.1 before untargeted).bind
        fun leftText between writtenLeft => ?_
      refine ((members_writes standard plain.2 valid.2.2.1).withHint between
        writtenLeft.untargeted).bind fun rightText after writtenRight => .pure ?_
      have group := writtenRight.append (Written.words writtenRight.untargeted [')'])
      rw [List.append_nil] at group
      apply test_written writtenLeft
      · exact group
      · simp [enclose_of_isPlain plain.1, Predicate.form, Form.keyword]
  | .stringMatch left value mode ignoreCase, plain, _ => by
      rw [filter, Filter.phrase]
      intro before untargeted
      refine (matchedText_ensures value).bind ?_
      rintro text before ⟨found, rfl⟩
      obtain rfl : value.needle = text := by simp [Expression.needle, found]
      refine (fragment_writes standard plain _ untargeted).bind fun leftText between written => ?_
      rw [enclose_of_isPlain plain]
      exact (matchText_ensures standard written _ mode ignoreCase).bind
        fun whole after writtenMatch => .pure writtenMatch
  | .and [], _, _ | .or [], _, _ => by
      rw [filter]
      exact fun _ _ => .pure trivial
  | .and (first :: rest), plain, valid => by
      simp only [Validation.filter, Validation.filters, Validation.andThen_ok_iff] at valid
      rw [filter, Filter.phrase]
      intro before untargeted
      refine (writesAs_predicate (fun _ => filter_answers standard plain.1 valid.1) before
        untargeted).bind fun text between writtenFirst => ?_
      exact (predicates_ensures standard true plain.2 valid.2 between writtenFirst.untargeted).bind
        fun texts after writtenRest => .pure (junction_written untargeted writtenFirst writtenRest)
  | .or (first :: rest), plain, valid => by
      simp only [Validation.filter, Validation.filters, Validation.andThen_ok_iff] at valid
      rw [filter, Filter.phrase]
      intro before untargeted
      refine (writesAs_predicate (fun _ => filter_answers standard plain.1 valid.1) before
        untargeted).bind fun text between writtenFirst => ?_
      refine (predicates_ensures standard false plain.2 valid.2 between
        writtenFirst.untargeted).bind fun texts after writtenRest => .pure ?_
      have written := junction_written untargeted writtenFirst writtenRest
      -- Behind the only condition of a junction no word is written.
      cases rest with
      | nil => exact written
      | cons second rest => exact written
  | .not condition, plain, valid => by
      rw [filter, Filter.phrase]
      intro before untargeted
      have plainInner : condition.IsPlain := plain
      have validInner : Validation.filter condition = .ok () := by
        simpa [Validation.filter] using valid
      refine (writesAs_predicate (fun _ => filter_answers standard plainInner validInner) before
        untargeted).bind fun text after written => .pure ?_
      have negated := ((Written.words untargeted "NOT (".toList).append written).append
        (Written.words written.untargeted [')'])
      simpa [Resolved.Ensures, Condition.characters, Condition.values] using negated
  | .hasRows _, plain, _ | .hasNoRows _, plain, _ => plain.elim

theorem predicates_ensures
    (standard : settings.dialect.functions = .standard)
    (conjunctive : Bool) :
    ∀ {conditions : List Filter}, Filter.ArePlain conditions →
      Validation.filters conditions = .ok () → ∀ before, before.rootTarget? = none →
        (predicates .standard conditions).Ensures settings before fun texts after =>
          Written (fun bound => Condition.others settings.dialect conjunctive bound
              (Filter.phrases settings.dialect conditions))
            (Condition.allValues (Filter.phrases settings.dialect conditions)) before
            (texts.flatMap fun text => separator conjunctive ++ (text.toList ++ [')'])) after
  | [], _, _, before, untargeted => by
      rw [predicates]
      exact .pure (Written.words untargeted [])
  | first :: rest, plain, valid, before, untargeted => by
      simp only [Validation.filters, Validation.andThen_ok_iff] at valid
      rw [predicates]
      refine (writesAs_predicate (fun _ => filter_answers standard plain.1 valid.1) before
        untargeted).bind fun text between written => ?_
      refine (predicates_ensures standard conjunctive plain.2 valid.2 between
        written.untargeted).bind fun texts after others => .pure ?_
      have opened := (Written.words untargeted (separator conjunctive)).append written
      have closed := (Written.words written.untargeted [')']).append others
      simpa [Filter.phrases, Condition.others, Condition.allValues] using opened.append closed

end

/-! ## Phrases of valid filters -/

mutual

theorem isWritten_term :
    ∀ {operand : Expression}, operand.IsPlain → Validation.expression operand = .ok () →
      operand.term.IsWritten
  | .path found, plain, _ => plain.2
  | .constant held, _, _ => by cases held <;> trivial
  | .function call, plain, valid => by
      rw [Expression.term]
      exact isWritten_callTerm plain (by simpa [Validation.expression] using valid)
  | .subQuery _, plain, _ | .filter _, plain, _ | .sort _, plain, _ | .aggregation _, plain, _
  | .projection _, plain, _ | .target _, plain, _ | .custom _, plain, _ => plain.elim

theorem isWritten_callTerm :
    ∀ {call : FunctionCall}, Expression.IsPlainCall call → Validation.function call = .ok () →
      (Expression.callTerm call).IsWritten
  | .mk kind [] distinct, _, valid => (Validation.length_of_function valid).symm
  | .mk kind (argument :: rest) distinct, plain, valid => by
      have arity := Validation.length_of_function valid
      simp only [Validation.function, Validation.functionArguments,
        Validation.andThen_ok_iff] at valid
      refine ⟨?_, isWritten_term plain.1 valid.2.2.2.1⟩
      rcases kind.arity_cases with none | one
      · simp [none] at arity
      · exact one

end

theorem isWritten_members
    {searched : Expression}
    (searchable : searched.IsSearchable)
    (valid : Validation.expression searched = .ok ()) :
    searched.members.IsWritten := by
  cases searched with
  | constant held =>
      cases held with
      | null => exact ⟨by simp, trivial⟩
      | list items => cases items <;> simp [Expression.members, Members.IsWritten, Term.IsWritten]
      | _ => trivial
  | path found => exact ⟨by simp [Expression.term], isWritten_term searchable valid⟩
  | function call =>
      refine ⟨?_, isWritten_term searchable valid⟩
      obtain ⟨kind, arguments, distinct⟩ := call
      cases arguments <;> simp [Expression.term, Expression.callTerm]
  | _ => exact searchable.elim

mutual

/-- The phrase of a valid plain filter is one that is written. -/
theorem isWritten_phrase {dialect : Dialect} :
    ∀ {condition : Filter}, condition.IsPlain → Validation.filter condition = .ok () →
      (condition.phrase dialect).IsWritten
  | .isNull operand, plain, valid | .isNotNull operand, plain, valid => by
      simp only [Validation.filter, Validation.andThen_ok_iff] at valid
      exact ⟨isWritten_term plain valid.2, trivial⟩
  | .compare left operator right, plain, valid => by
      simp only [Validation.filter, Validation.andThen_ok_iff] at valid
      exact ⟨isWritten_term plain.1 valid.2.1, isWritten_term plain.2 valid.2.2.2.1⟩
  | .between operand lower upper, plain, valid => by
      simp only [Validation.filter, Validation.andThen_ok_iff] at valid
      exact ⟨isWritten_term plain.1 valid.2.1, isWritten_term plain.2.1 valid.2.2.2.1,
        isWritten_term plain.2.2 valid.2.2.2.2.2⟩
  | .isIn left right, plain, valid | .isNotIn left right, plain, valid => by
      simp only [Validation.filter, Validation.andThen_ok_iff] at valid
      exact ⟨isWritten_term plain.1 valid.2.1, isWritten_members plain.2 valid.2.2.2⟩
  | .stringMatch left value mode ignoreCase, plain, valid => by
      simp only [Validation.filter, Validation.andThen_ok_iff] at valid
      have written := isWritten_term plain valid.2.1
      cases ignoreCase with
      | true => exact ⟨⟨rfl, written⟩, trivial⟩
      | false => exact ⟨written, trivial⟩
  | .and [], _, _ | .or [], _, _ => ⟨trivial, trivial⟩
  | .and (first :: rest), plain, valid | .or (first :: rest), plain, valid => by
      simp only [Validation.filter, Validation.filters, Validation.andThen_ok_iff] at valid
      refine ⟨?_, isWritten_phrase plain.1 valid.1, areWritten_phrases plain.2 valid.2⟩
      cases rest <;> simp [Filter.phrases]
  | .not condition, plain, valid => by
      have plainInner : condition.IsPlain := plain
      have validInner : Validation.filter condition = .ok () := by
        simpa [Validation.filter] using valid
      have inner : (condition.phrase dialect).IsWritten := isWritten_phrase plainInner validInner
      exact inner
  | .hasRows _, plain, _ | .hasNoRows _, plain, _ => plain.elim

theorem areWritten_phrases {dialect : Dialect} :
    ∀ {conditions : List Filter}, Filter.ArePlain conditions →
      Validation.filters conditions = .ok () →
        Condition.AreWritten (Filter.phrases dialect conditions)
  | [], _, _ => trivial
  | first :: rest, plain, valid => by
      simp only [Validation.filters, Validation.andThen_ok_iff] at valid
      exact ⟨isWritten_phrase plain.1 valid.1, areWritten_phrases plain.2 valid.2⟩

end

end Phrase
end ObjectQuery
