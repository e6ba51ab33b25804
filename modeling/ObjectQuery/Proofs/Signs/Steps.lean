import ObjectQuery.Proofs.Parameters.Slots
import ObjectQuery.Proofs.Signs.Names
import ObjectQuery.Proofs.Sketch.Steps

/-!
# Signs of sketches

A sketch is signed by a list of signs when every run over it from a named context leads to one
and writes a text that shows just these signs. Here are the rules for the ways in which sketches
are put together. Only words stand directly behind what is written for a node; an operator is
the only one among them that may show a sign.
-/

namespace ObjectQuery

open Text Resolution

/-- The conventions under which a marker is told apart from words, and calls are known. -/
structure Dialect.IsAccepted (dialect : Dialect) : Prop where
  marker : Accepted dialect.parameterMarker
  functions : dialect.functions = SpellingRegistry.standard

namespace Sketch

/-- Runs over the sketch keep contexts named and write what shows the signs. -/
structure Signed (settings : Settings) (sketch : Sketch) (signs : List Sign) : Prop where
  run : ∀ {before after : Context} {text : String}, before.IsNamed →
    sketch.Renders settings before text after →
      after.IsNamed ∧ Shows settings.dialect.parameterMarker text signs

/-- No name goes on in what a run over the sketch writes. -/
structure Detached (settings : Settings) (sketch : Sketch) : Prop where
  apart : ∀ {before after : Context} {text : String},
    sketch.Renders settings before text after → Apart text

/-- Whether runs over the sketch from named contexts write what begins with a name. -/
structure Begins (settings : Settings) (sketch : Sketch) (begins : Bool) : Prop where
  starts : ∀ {before after : Context} {text : String}, before.IsNamed →
    sketch.Renders settings before text after → (¬ Apart text ↔ begins = true)

variable
  {settings : Settings}
  {sketch first second : Sketch}
  {begins : Bool}
  {signs signs' : List Sign}
  {opening separator closing : String}

/-- A constant that takes no parameter is the word for null, or an empty list. -/
theorem constant_of_written
    {value : Value}
    {before after : Context}
    {text : String}
    (unbound : value.slots = 0)
    (written : (Filling.constant value).write settings before = (.ok text, after)) :
    after = before ∧ (value = .null ∧ text = "NULL" ∨ value = .list [] ∧ text = "") := by
  cases value with
  | null =>
      obtain ⟨rfl, rfl⟩ : "NULL" = text ∧ before = after := by
        simpa [Filling.write, BuiltIn.constant] using written
      exact ⟨rfl, .inl ⟨rfl, rfl⟩⟩
  | list items =>
      obtain rfl : items = [] := List.length_eq_zero_iff.mp unbound
      obtain ⟨rfl, rfl⟩ : "" = text ∧ before = after := by
        simpa [Filling.write, BuiltIn.constant, BuiltIn.bindItems, bind_apply] using written
      exact ⟨rfl, .inr ⟨rfl, rfl⟩⟩
  | _ => simp [Value.slots] at unbound

namespace Detached

theorem words (apart : Apart opening) : (Sketch.words opening).Detached settings := by
  refine ⟨fun renders => ?_⟩
  obtain ⟨rfl, -⟩ := renders.of_words
  exact apart

theorem append (firsts : first.Detached settings) (seconds : second.Detached settings) :
    (first.append second).Detached settings := by
  refine ⟨fun renders => ?_⟩
  obtain ⟨_, _, _, rendersFirst, rendersSecond, rfl⟩ := renders.exists_append
  exact (firsts.apart rendersFirst).append (seconds.apart rendersSecond)

/-- Words that can be seen settle the matter for whatever is behind them. -/
theorem after_words (apart : Apart opening) (visible : opening ≠ "") (sketch : Sketch) :
    ((Sketch.words opening).append sketch).Detached settings := by
  refine ⟨fun renders => ?_⟩
  obtain ⟨_, _, _, rendersWords, -, rfl⟩ := renders.exists_append
  obtain ⟨rfl, -⟩ := rendersWords.of_words
  exact apart.append_left visible

end Detached

namespace Begins

theorem filling
    {given : Filling}
    (starts : ∀ {before after : Context} {text : String},
      given.write settings before = (.ok text, after) → (¬ Apart text ↔ begins = true)) :
    (Sketch.filling given).Begins settings begins :=
  ⟨fun _ renders => starts renders.of_filling⟩

theorem property {path : Path} (dotted : path.IsDotted) :
    (Sketch.mention (.property path)).Begins settings true := by
  refine ⟨fun named renders => ?_⟩
  obtain ⟨rfl, rfl⟩ := renders.of_mention
  simp [Mention.property_begins dotted (named.owner _)]

theorem expecting (starts : sketch.Begins settings begins) (valueType : ValueType) :
    (Sketch.expecting valueType sketch).Begins settings begins := by
  refine ⟨fun named renders => ?_⟩
  obtain ⟨inner, rendersInner, rfl⟩ := renders.exists_expecting
  exact starts.starts (named.withHint _) rendersInner

theorem words_empty : (Sketch.words "").Begins settings false := by
  refine ⟨fun _ renders => ?_⟩
  obtain ⟨rfl, -⟩ := renders.of_words
  decide

theorem between (inner : Sketch) (closing : String) :
    (Sketch.between "(" inner closing).Begins settings false := by
  have apart : Apart "(" ∧ "(" ≠ "" := by decide
  have detached : (Sketch.between "(" inner closing).Detached settings :=
    .after_words apart.1 apart.2 _
  exact ⟨fun _ renders => by simpa using detached.apart renders⟩

theorem call
    (accepted : settings.dialect.IsAccepted)
    {kind : FunctionKind}
    (unary : kind.arity = 1)
    (distinct : Bool)
    (argument : Sketch) :
    (Sketch.call kind distinct argument).Begins settings true := by
  refine ⟨?_⟩
  rintro before after _ - ⟨rendering, rfl⟩
  cases rendering with
  | call argumentPart =>
      simp only [Rendering.text, Dialect.callText, accepted.functions,
        SpellingRegistry.standard_call _ unary, Except.toOption, Option.getD_some]
      simp only [iff_true]
      exact not_apart_append (not_apart_append (opening_begins _ kind))

theorem nested_select (distinct : Bool) (source clauses selected : Sketch) :
    (Sketch.nested (.select distinct source clauses selected)).Begins settings true := by
  refine ⟨?_⟩
  rintro before after _ - ⟨rendering, rfl⟩
  cases rendering with
  | nested queryPart =>
      cases queryPart with
      | select sourcePart clausesPart selectedPart =>
          have select : ¬ Apart "SELECT " := by decide
          simp only [Rendering.text, String.append_assoc, iff_true]
          exact not_apart_append select

end Begins

namespace Signed

/-! ## Single pieces -/

/-- A filling that binds nothing leaves the context as it is. -/
theorem filling
    {given : Filling}
    (keeps : ∀ {before after : Context} {text : String},
      given.write settings before = (.ok text, after) →
        after = before ∧ Shows settings.dialect.parameterMarker text signs) :
    (Sketch.filling given).Signed settings signs := by
  refine ⟨fun {before after text} named renders => ?_⟩
  obtain ⟨rfl, shown⟩ := keeps renders.of_filling
  exact ⟨named, shown⟩

theorem words
    (accepted : settings.dialect.IsAccepted)
    (neutral : opening.toList.all isNeutral = true) :
    (Sketch.words opening).Signed settings [] := by
  refine ⟨fun {before after text} named renders => ?_⟩
  obtain ⟨rfl, rfl⟩ := renders.of_words
  exact ⟨named, (passes_of_neutral accepted.marker neutral).shows⟩

theorem constant
    (accepted : settings.dialect.IsAccepted)
    {value : Value}
    (unbound : value.slots = 0) :
    (Sketch.filling (.constant value)).Signed settings [] := by
  refine filling fun {before after text} written => ?_
  obtain ⟨rfl, ⟨-, rfl⟩ | ⟨-, rfl⟩⟩ := constant_of_written unbound written
  · exact ⟨rfl, (passes_of_neutral accepted.marker (by decide)).shows⟩
  · exact ⟨rfl, (passes_of_neutral accepted.marker (by decide)).shows⟩

theorem literal
    (accepted : settings.dialect.IsAccepted)
    {value : Value}
    (noDecimal : ∀ digits, value ≠ .decimal digits) :
    (Sketch.filling (.literal value)).Signed settings value.literalSigns := by
  refine filling fun {before after text} written => ?_
  have unfolded : (settings.dialect.literalText value, before) = (.ok text, after) := written
  obtain ⟨spelled, rfl⟩ := Prod.mk.inj unfolded
  exact ⟨rfl, shows_literal accepted.marker noDecimal spelled⟩

theorem mention
    (accepted : settings.dialect.IsAccepted)
    {found : Mention}
    (dotted : ∀ path, found = .property path → path.IsDotted) :
    (Sketch.mention found).Signed settings [] := by
  refine ⟨fun {before after text} named renders => ?_⟩
  obtain ⟨rfl, rfl⟩ := renders.of_mention
  exact ⟨named, found.shows_text accepted.marker dotted (named.owner found)⟩

theorem declaration
    (accepted : settings.dialect.IsAccepted)
    {target : Target}
    (names : Target.HasDottedNames target.name target.entity) :
    (Sketch.declaration target).Signed settings [] := by
  refine ⟨?_⟩
  rintro before after _ named ⟨rendering, rfl⟩
  cases rendering with
  | declaration binding valid introduced =>
      obtain ⟨isNamed, after_named⟩ := introduce_named named names valid _ _ introduced
      exact ⟨after_named, (isNamed.passes_declaration accepted.marker).shows⟩

/-! ## Sketches in a row -/

theorem append
    (firsts : first.Signed settings signs)
    (seconds : second.Signed settings signs')
    (detached : second.Detached settings) :
    (first.append second).Signed settings (signs ++ signs') := by
  refine ⟨fun {before after text} named renders => ?_⟩
  obtain ⟨_, _, _, rendersFirst, rendersSecond, rfl⟩ := renders.exists_append
  obtain ⟨namedMiddle, shown⟩ := firsts.run named rendersFirst
  obtain ⟨namedAfter, shown'⟩ := seconds.run namedMiddle rendersSecond
  exact ⟨namedAfter, shown.append (detached.apart rendersSecond) shown'⟩

theorem after_words
    (accepted : settings.dialect.IsAccepted)
    (neutral : opening.toList.all isNeutral = true)
    (signed : sketch.Signed settings signs) :
    ((Sketch.words opening).append sketch).Signed settings signs := by
  refine ⟨fun {before after text} named renders => ?_⟩
  obtain ⟨_, _, _, rendersWords, rendersInner, rfl⟩ := renders.exists_append
  obtain ⟨rfl, rfl⟩ := rendersWords.of_words
  obtain ⟨namedAfter, shown⟩ := signed.run named rendersInner
  exact ⟨namedAfter, (passes_of_neutral accepted.marker neutral).before shown⟩

theorem before_words
    (accepted : settings.dialect.IsAccepted)
    (signed : sketch.Signed settings signs)
    (apart : Apart closing)
    (neutral : closing.toList.all isNeutral = true) :
    (sketch.append (Sketch.words closing)).Signed settings signs := by
  simpa using signed.append (words accepted neutral) (.words apart)

/-- Two sketches with words between them. -/
theorem joined
    (accepted : settings.dialect.IsAccepted)
    (firsts : first.Signed settings signs)
    (apart : Apart separator)
    (visible : separator ≠ "")
    (neutral : separator.toList.all isNeutral = true)
    (seconds : second.Signed settings signs') :
    (first.append ((Sketch.words separator).append second)).Signed settings (signs ++ signs') :=
  firsts.append (seconds.after_words accepted neutral) (.after_words apart visible second)

/-- Two sketches with an operator between them, which shows its sign in front of a name. -/
theorem compared
    (firsts : first.Signed settings signs)
    (operator : CompareOperator)
    (starts : second.Begins settings begins)
    (seconds : second.Signed settings signs') :
    (first.append ((Sketch.words operator.symbol).append second)).Signed settings
      (signs ++ (operator.sign.inFront begins ++ signs')) := by
  obtain ⟨apart, visible⟩ := apart_symbol operator
  refine firsts.append ?_ (.after_words apart visible second)
  refine ⟨fun {before after text} named renders => ?_⟩
  obtain ⟨_, _, _, rendersWords, rendersInner, rfl⟩ := renders.exists_append
  obtain ⟨rfl, rfl⟩ := rendersWords.of_words
  obtain ⟨namedAfter, shown⟩ := seconds.run named rendersInner
  exact ⟨namedAfter, shown.behind operator (starts.starts named rendersInner)⟩

theorem expecting (signed : sketch.Signed settings signs) (valueType : ValueType) :
    (Sketch.expecting valueType sketch).Signed settings signs := by
  refine ⟨fun {before after text} named renders => ?_⟩
  obtain ⟨inner, rendersInner, rfl⟩ := renders.exists_expecting
  obtain ⟨namedInner, shown⟩ := signed.run (named.withHint _) rendersInner
  exact ⟨namedInner.withHint _, shown⟩

theorem between
    (accepted : settings.dialect.IsAccepted)
    (neutral : opening.toList.all isNeutral = true)
    (signed : sketch.Signed settings signs) :
    (Sketch.between opening sketch ")").Signed settings signs :=
  (signed.before_words accepted (by decide) (by decide)).after_words accepted neutral

theorem enclosing
    (accepted : settings.dialect.IsAccepted)
    (operand : Expression)
    (signed : sketch.Signed settings signs) :
    (Sketch.enclosing operand sketch).Signed settings signs := by
  unfold Sketch.enclosing
  split
  · exact signed.between accepted (by decide)
  · exact signed

/-- A column behind which its name may stand. -/
theorem named
    (accepted : settings.dialect.IsAccepted)
    (signed : sketch.Signed settings signs)
    {name : Option String}
    (identifier : ∀ given ∈ name, isIdentifier given = true) :
    (sketch.named name).Signed settings signs := by
  cases name with
  | none => exact signed
  | some name =>
      have separator : Apart " AS " ∧ " AS " ≠ "" ∧ " AS ".toList.all isNeutral = true := by decide
      have neutral := isNeutral_of_isDottedIdentifier
        (isDottedIdentifier_of_isIdentifier (identifier name rfl))
      refine signed.before_words accepted (separator.1.append_left separator.2.1) ?_
      rw [String.toList_append, List.all_append, separator.2.2, neutral, Bool.and_self]

/-! ## Calls and selects -/

/-- A call of one argument adds nothing to what the argument shows. -/
theorem call
    (accepted : settings.dialect.IsAccepted)
    {kind : FunctionKind}
    (unary : kind.arity = 1)
    (distinct : Bool)
    (signed : sketch.Signed settings signs) :
    (Sketch.call kind distinct sketch).Signed settings signs := by
  refine ⟨?_⟩
  rintro before after _ named ⟨rendering, rfl⟩
  cases rendering with
  | call argumentPart =>
      obtain ⟨namedAfter, shown⟩ := signed.run named ⟨argumentPart, rfl⟩
      refine ⟨namedAfter, ?_⟩
      have word : Passes settings.dialect.parameterMarker (if distinct then "DISTINCT " else "") :=
        passes_of_neutral accepted.marker (by cases distinct <;> decide)
      have closing : Passes settings.dialect.parameterMarker ")" :=
        passes_of_neutral accepted.marker (by decide)
      simp only [Rendering.text, Dialect.callText, accepted.functions,
        SpellingRegistry.standard_call _ unary, Except.toOption, Option.getD_some]
      exact ((passes_opening accepted.marker _ kind).before (word.before shown)).andThen (by decide)
        closing

theorem select
    (accepted : settings.dialect.IsAccepted)
    (distinct : Bool)
    {source clauses selected : Sketch}
    {sourceSigns clauseSigns selectedSigns : List Sign}
    (sources : source.Signed settings sourceSigns)
    (restricts : clauses.Signed settings clauseSigns)
    (detached : clauses.Detached settings)
    (selects : selected.Signed settings selectedSigns) :
    (Sketch.select distinct source clauses selected).Signed settings
      (selectedSigns ++ (sourceSigns ++ clauseSigns)) := by
  refine ⟨?_⟩
  rintro before after _ named ⟨rendering, rfl⟩
  cases rendering with
  | select sourcePart clausesPart selectedPart =>
      obtain ⟨sourced, showsSource⟩ := sources.run named ⟨sourcePart, rfl⟩
      obtain ⟨restricted, showsClauses⟩ := restricts.run sourced ⟨clausesPart, rfl⟩
      obtain ⟨namedAfter, showsSelected⟩ := selects.run restricted ⟨selectedPart, rfl⟩
      refine ⟨namedAfter, ?_⟩
      have words {text : String} := @passes_of_neutral _ text accepted.marker
      have opening : Passes settings.dialect.parameterMarker
          ("SELECT " ++ if distinct then "DISTINCT " else "") :=
        (words (by decide)).append (words (by cases distinct <;> decide))
      have from_apart : Apart " FROM " := by decide
      have tail := showsSource.append (detached.apart ⟨clausesPart, rfl⟩) showsClauses
      have both := (opening.before showsSelected).joined from_apart (by decide)
        (words (by decide)) tail
      simpa only [Rendering.text, String.append_assoc] using both

theorem nested (signed : sketch.Signed settings signs) :
    (Sketch.nested sketch).Signed settings signs := by
  refine ⟨?_⟩
  rintro before after _ named ⟨rendering, rfl⟩
  cases rendering with
  | nested queryPart =>
      obtain ⟨namedInner, shown⟩ := signed.run (named.enter _) ⟨queryPart, rfl⟩
      exact ⟨namedInner.leave named, shown⟩

end Signed

/-! ## Lists of sketches -/

/-- A call without arguments is written as a word. -/
theorem word_of_written
    (accepted : settings.dialect.IsAccepted)
    {kind : FunctionKind}
    (nullary : kind.arity = 0)
    {distinct : Bool}
    {before after : Context}
    {text : String}
    (written : (Filling.call kind distinct).write settings before = (.ok text, after)) :
    text = kind.word ∧ after = before := by
  have spelled : (settings.dialect.callText kind [] distinct, before) = (.ok text, after) := written
  simp only [Dialect.callText, accepted.functions,
    SpellingRegistry.standard_word _ nullary] at spelled
  obtain ⟨same, rfl⟩ := Prod.mk.inj spelled
  exact ⟨(Except.ok.inj same).symm, rfl⟩

/-- Sketches with the signs of all of them, in order. -/
inductive SignedEach (settings : Settings) : List Sketch → List Sign → Prop
  | nil : SignedEach settings [] []
  | cons
      {first : Sketch}
      {rest : List Sketch}
      {signs signs' : List Sign}
      (firsts : first.Signed settings signs)
      (rests : SignedEach settings rest signs') :
      SignedEach settings (first :: rest) (signs ++ signs')

namespace SignedEach

variable {sketches : List Sketch}

theorem separated
    (accepted : settings.dialect.IsAccepted)
    (apart : Apart separator)
    (visible : separator ≠ "")
    (neutral : separator.toList.all isNeutral = true)
    (each : SignedEach settings sketches signs) :
    (Sketch.separated separator sketches).Signed settings signs := by
  induction each with
  | nil => exact .words accepted (by decide)
  | cons firsts rests inductionHypothesis =>
      cases rests with
      | nil => simpa [Sketch.separated] using firsts
      | cons seconds rests =>
          exact firsts.joined accepted apart visible neutral inductionHypothesis

theorem length_eq_one
    {kind : FunctionKind}
    {argument : Sketch}
    {rest : List Sketch}
    (arity : (argument :: rest).length = kind.arity) :
    rest = [] ∧ kind.arity = 1 := by
  have few := kind.arity_cases
  simp only [List.length_cons] at arity
  exact ⟨List.length_eq_zero_iff.mp (by omega), by omega⟩

theorem parenthesized
    (accepted : settings.dialect.IsAccepted)
    (each : SignedEach settings sketches signs) :
    SignedEach settings (sketches.map fun sketch => Sketch.between "(" sketch ")") signs := by
  induction each with
  | nil => exact .nil
  | cons firsts _ inductionHypothesis =>
      exact .cons (firsts.between accepted (by decide)) inductionHypothesis

/-- A call with as many arguments as its function has. -/
theorem calling
    (accepted : settings.dialect.IsAccepted)
    {kind : FunctionKind}
    (arity : sketches.length = kind.arity)
    (distinct : Bool)
    (each : SignedEach settings sketches signs) :
    (Sketch.calling kind distinct sketches).Signed settings signs := by
  cases each with
  | nil =>
      refine .filling fun {before after text} written => ?_
      obtain ⟨rfl, rfl⟩ := word_of_written accepted arity.symm written
      exact ⟨rfl, (passes_word accepted.marker kind).shows⟩
  | cons firsts rests =>
      obtain ⟨rfl, unary⟩ := length_eq_one arity
      cases rests
      simpa [Sketch.calling] using firsts.call accepted unary distinct

end SignedEach

theorem Begins.calling
    (accepted : settings.dialect.IsAccepted)
    {kind : FunctionKind}
    {sketches : List Sketch}
    (arity : sketches.length = kind.arity)
    (distinct : Bool) :
    (Sketch.calling kind distinct sketches).Begins settings true := by
  cases sketches with
  | nil =>
      refine .filling fun {before after text} written => ?_
      obtain ⟨rfl, rfl⟩ := word_of_written accepted arity.symm written
      simp [word_begins kind]
  | cons argument rest => exact .call accepted (SignedEach.length_eq_one arity).2 distinct argument

end Sketch
end ObjectQuery
