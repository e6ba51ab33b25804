import ObjectQuery.Composition.Operation

/-!
# What successful runs ensure

A resolution ensures a property, from a context, when every successful run of it from there
ends with a result and a context that have the property. A run that fails ensures nothing.
There is one rule for each way in which resolutions are put together, and one for each kind
of answer that the library's own registry gives.
-/

namespace ObjectQuery

theorem Except.eq_ok_of_toOption
    {error result : Type}
    {outcome : Except error result}
    {found : result}
    (shown : outcome.toOption = some found) :
    outcome = .ok found := by
  cases outcome with
  | error error => cases shown
  | ok found => exact congrArg _ (Option.some.inj shown)

/-- Where something of the result can be seen, there is a result, and that is seen of it. -/
theorem Except.exists_ok_of_map_toOption
    {error result seen : Type}
    {outcome : Except error result}
    {view : result → seen}
    {found : seen}
    (shown : outcome.toOption.map view = some found) :
    ∃ result, outcome = .ok result ∧ view result = found := by
  obtain ⟨result, isResult, viewed⟩ := Option.map_eq_some_iff.mp shown
  exact ⟨result, eq_ok_of_toOption isResult, viewed⟩

theorem Except.eq_error_of_match
    {error result : Type}
    {outcome : Except error result}
    {found : error}
    (shown : (match outcome with
      | .ok _ => none
      | .error error => some error) = some found) :
    outcome = .error found := by
  cases outcome with
  | ok result => cases shown
  | error error => exact congrArg _ (Option.some.inj shown)

namespace Resolution

variable {first second : Type}

/-- Every successful run from a context ends with the property. -/
def Ensures
    (step : Resolution first)
    (settings : Settings)
    (before : Context)
    (ends : first → Context → Prop) : Prop :=
  ∀ result after, step settings before = (.ok result, after) → ends result after

namespace Ensures

variable {settings : Settings} {before : Context} {ends : first → Context → Prop}

theorem pure {result : first} (holds : ends result before) :
    (Pure.pure result : Resolution first).Ensures settings before ends := by
  intro result' after run
  obtain ⟨rfl, rfl⟩ : result = result' ∧ before = after := by simpa using run
  exact holds

/-- A step ensures what the next one starts from. -/
theorem bind
    {step : Resolution first}
    {next : first → Resolution second}
    {ends' : second → Context → Prop}
    (steps : step.Ensures settings before ends)
    (nexts : ∀ result after, ends result after → (next result).Ensures settings after ends') :
    (step >>= next).Ensures settings before ends' := by
  intro result after run
  rw [bind_apply] at run
  split at run
  · next found between ran => exact nexts found between (steps found between ran) result after run
  · simp at run

/-- A step of which nothing needs to be known, and another. -/
theorem bindAny
    {step : Resolution first}
    {next : first → Resolution second}
    {ends' : second → Context → Prop}
    (nexts : ∀ result after, (next result).Ensures settings after ends') :
    (step >>= next).Ensures settings before ends' := by
  have steps : step.Ensures settings before fun _ _ => True := fun _ _ _ => trivial
  exact steps.bind fun result after _ => nexts result after

theorem weaken
    {step : Resolution first}
    {ends' : first → Context → Prop}
    (steps : step.Ensures settings before ends)
    (implies : ∀ result after, ends result after → ends' result after) :
    step.Ensures settings before ends' :=
  fun result after run => implies result after (steps result after run)

theorem and
    {step : Resolution first}
    {ends' : first → Context → Prop}
    (steps : step.Ensures settings before ends)
    (steps' : step.Ensures settings before ends') :
    step.Ensures settings before fun result after => ends result after ∧ ends' result after :=
  fun result after run => ⟨steps result after run, steps' result after run⟩

theorem fail (error : ResolutionError) :
    (Resolution.fail error).Ensures settings before ends := by
  intro result after run
  simp [Resolution.fail] at run

theorem unsupported (construct : String) :
    (Resolution.unsupported construct).Ensures settings before ends := by
  intro result after run
  simp [Resolution.unsupported] at run

theorem ofExcept
    {outcome : Except ResolutionError first}
    (holds : ∀ result, outcome = .ok result → ends result before) :
    (Resolution.ofExcept outcome).Ensures settings before ends := by
  intro result after run
  obtain ⟨succeeds, rfl⟩ : outcome = .ok result ∧ before = after := by
    simpa [Resolution.ofExcept] using run
  exact holds result succeeds

theorem bindDialect
    {next : Dialect → Resolution first}
    (nexts : (next settings.dialect).Ensures settings before ends) :
    (Resolution.dialect >>= next).Ensures settings before ends :=
  nexts

theorem bindContext
    {next : Context → Resolution first}
    (nexts : (next before).Ensures settings before ends) :
    (Resolution.context >>= next).Ensures settings before ends :=
  nexts

theorem bindParameterCount
    {next : Nat → Resolution first}
    (nexts : (next before.parameters.size).Ensures settings before ends) :
    (Resolution.parameterCount >>= next).Ensures settings before ends :=
  nexts

/-- A step that always fails after what came before it. -/
theorem bindFail {step : Resolution Unit} (error : ResolutionError) :
    (step >>= fun _ => Resolution.fail error : Resolution first).Ensures settings before ends := by
  intro result after run
  rw [bind_apply] at run
  split at run
  · simp [Resolution.fail] at run
  · simp at run

/-- A check that is passed holds for the rest. -/
theorem bindChecked
    {outcome : Checked}
    {next : Unit → Resolution first}
    (nexts : outcome = .ok () → (next ()).Ensures settings before ends) :
    (Resolution.ofChecked outcome >>= next).Ensures settings before ends := by
  intro result after run
  cases outcome with
  | ok found => exact nexts rfl result after run
  | error fault => simp [bind_apply, Resolution.ofChecked] at run

theorem inChild
    {aliasMode : AliasPolicy}
    {step : Resolution first}
    (steps : step.Ensures settings (before.enter aliasMode) fun result after =>
      ends result (after.leave before)) :
    (Resolution.inChild aliasMode step).Ensures settings before ends := by
  intro result after run
  simp only [Resolution.inChild] at run
  split at run
  · simp at run
  · obtain ⟨succeeds, rfl⟩ := Prod.mk.inj run
    exact steps result _ (Prod.ext succeeds rfl)

theorem withHint
    {hint : ValueType}
    {step : Resolution first}
    (steps : step.Ensures settings { before with hint := some hint } fun result after =>
      ends result { after with hint := before.hint }) :
    (Resolution.withHint hint step).Ensures settings before ends := by
  intro result after run
  simp only [Resolution.withHint] at run
  obtain ⟨succeeds, rfl⟩ := Prod.mk.inj run
  exact steps result _ (Prod.ext succeeds rfl)

end Ensures

/-! ## Parts of a run -/

section Parts

variable
  {settings : Settings}
  {before between after : Context}
  {step : Resolution first}
  {next : first → Resolution second}

/-- The two parts of a run that succeeds. -/
theorem exists_between
    {result : second}
    (run : (step >>= next) settings before = (.ok result, after)) :
    ∃ found between,
      step settings before = (.ok found, between) ∧
        next found settings between = (.ok result, after) := by
  rw [bind_apply] at run
  split at run
  · next found between ran => exact ⟨found, between, ran, run⟩
  · simp at run

/-- A step that succeeds hands its result and its context on. -/
theorem bind_run
    {found : first}
    (run : step settings before = (.ok found, between)) :
    (step >>= next) settings before = next found settings between := by
  rw [bind_apply, run]

end Parts
end Resolution

/-- What an answer ensures: something of its text, or of its plan. -/
def Resolved.Ensures
    (texts : String → Context → Prop)
    (plans : ProjectionPlan → Context → Prop) :
    Resolved → Context → Prop
  | .fragment text, after => texts text after
  | .emptyPredicate, _ => True
  | .projection plan, after => plans plan after

namespace Resolvers

open Resolution

variable
  {settings : Settings}
  {before : Context}
  {expression : Expression}
  {own : Resolution Resolved}

/-- The library's own answer is taken as it is, for a node that passes its check. -/
theorem dispatch_ensures
    {output : OutputKind}
    {ends : Resolved → Context → Prop}
    (owns : expression.validate = .ok () → own.Ensures settings before ends) :
    (standard.dispatch expression output own).Ensures settings before fun resolved after =>
      resolved.isAcceptable output ∧ ends resolved after := by
  refine .bindChecked fun valid => ?_
  rw [standard_candidates]
  split
  · refine .bindParameterCount ?_
    have attempts : (do let resolved ← own; return some resolved).Ensures settings before
        fun found after => ∃ resolved, found = some resolved ∧ ends resolved after :=
      (owns valid).bind fun resolved after holds => .pure ⟨resolved, rfl, holds⟩
    refine attempts.bind fun found after taken => ?_
    obtain ⟨resolved, rfl, holds⟩ := taken
    by_cases acceptable : resolved.isAcceptable output = true
    · simp only [acceptable, if_true]
      exact .pure ⟨acceptable, holds⟩
    · simp only [acceptable]
      exact .bindFail _
  · exact .fail _

variable {texts : String → Context → Prop} {plans : ProjectionPlan → Context → Prop}

/-- A text that is taken is not blank. -/
theorem fragment_ensures
    (owns : expression.validate = .ok () →
      own.Ensures settings before (Resolved.Ensures texts plans)) :
    (standard.fragment expression own).Ensures settings before fun text after =>
      Text.isBlank text = false ∧ texts text after := by
  refine (dispatch_ensures owns).bind fun resolved after taken => ?_
  obtain ⟨acceptable, holds⟩ := taken
  cases resolved with
  | fragment text =>
      refine .pure ⟨?_, holds⟩
      simpa [Resolved.isAcceptable, Resolved.outputKind, Resolved.fault?] using acceptable
  | emptyPredicate => exact .fail _
  | projection plan => exact .fail _

theorem predicate?_ensures
    (owns : expression.validate = .ok () →
      own.Ensures settings before (Resolved.Ensures texts plans)) :
    (standard.predicate? expression own).Ensures settings before fun found after =>
      ∀ text, found = some text → Text.isBlank text = false ∧ texts text after := by
  refine (dispatch_ensures owns).bind fun resolved after taken => ?_
  obtain ⟨acceptable, holds⟩ := taken
  cases resolved with
  | fragment text =>
      refine .pure ?_
      rintro _ ⟨rfl⟩
      refine ⟨?_, holds⟩
      simpa [Resolved.isAcceptable, Resolved.outputKind, Resolved.fault?] using acceptable
  | emptyPredicate => exact .pure (by simp)
  | projection plan => exact .fail _

theorem predicate_ensures
    (owns : expression.validate = .ok () →
      own.Ensures settings before (Resolved.Ensures texts plans)) :
    (standard.predicate expression own).Ensures settings before fun text after =>
      Text.isBlank text = false ∧ texts text after := by
  refine (predicate?_ensures owns).bind fun found after holds => ?_
  cases found with
  | some text => exact .pure (holds text rfl)
  | none => exact .fail _

/-- A plan that is taken has no fault. -/
theorem plan_ensures
    (owns : expression.validate = .ok () →
      own.Ensures settings before (Resolved.Ensures texts plans)) :
    (standard.plan expression own).Ensures settings before fun plan after =>
      plan.fault? = none ∧ plans plan after := by
  refine (dispatch_ensures owns).bind fun resolved after taken => ?_
  obtain ⟨acceptable, holds⟩ := taken
  cases resolved with
  | fragment text => exact .fail _
  | emptyPredicate => exact .fail _
  | projection plan =>
      refine .pure ⟨?_, holds⟩
      simpa [Resolved.isAcceptable, Resolved.outputKind, Resolved.fault?] using acceptable

end Resolvers

namespace SelectDraft

open Resolution

variable
  {settings : Settings}
  {before : Context}
  {draft : SelectDraft}
  {step : Resolution String}
  {texts : String → Context → Prop}

theorem advance_ensures (next : Stage) :
    (ofExcept (draft.advance next)).Ensures settings before fun draft' after =>
      draft' = { draft with stage := next } ∧ after = before := by
  refine .ofExcept fun draft' taken => ⟨?_, rfl⟩
  simp only [advance] at taken
  split at taken
  · simp at taken
  · split at taken
    · simp at taken
    · simpa using taken.symm

theorem withTarget_ensures (steps : step.Ensures settings before texts) :
    (draft.withTarget step).Ensures settings before fun draft' after =>
      ∃ text, draft' = { draft with stage := .target, source := some text } ∧
        texts text after := by
  refine (advance_ensures .target).bind ?_
  rintro _ _ ⟨rfl, rfl⟩
  exact steps.bind fun text after holds => .pure ⟨text, rfl, holds⟩

theorem withFilter_ensures (steps : step.Ensures settings before texts) :
    (draft.withFilter step).Ensures settings before fun draft' after =>
      ∃ text, draft' = { draft with stage := .filter, condition := some text } ∧
        texts text after := by
  refine (advance_ensures .filter).bind ?_
  rintro _ _ ⟨rfl, rfl⟩
  exact steps.bind fun text after holds => .pure ⟨text, rfl, holds⟩

theorem withAggregation_ensures (steps : step.Ensures settings before texts) :
    (draft.withAggregation step).Ensures settings before fun draft' after =>
      ∃ text, draft' = { draft with stage := .aggregation, grouping := some text } ∧
        texts text after := by
  refine (advance_ensures .aggregation).bind ?_
  rintro _ _ ⟨rfl, rfl⟩
  exact steps.bind fun text after holds => .pure ⟨text, rfl, holds⟩

theorem withSort_ensures (steps : step.Ensures settings before texts) :
    (draft.withSort step).Ensures settings before fun draft' after =>
      ∃ text, draft' = { draft with stage := .sort, ordering := some text } ∧
        texts text after := by
  refine (advance_ensures .sort).bind ?_
  rintro _ _ ⟨rfl, rfl⟩
  exact steps.bind fun text after holds => .pure ⟨text, rfl, holds⟩

theorem withProjection_ensures
    {step : Resolution ProjectionPlan}
    {plans : ProjectionPlan → Context → Prop}
    (steps : step.Ensures settings before plans) :
    (draft.withProjection step).Ensures settings before fun draft' after =>
      ∃ plan, draft' = { draft with stage := .projection, plan := some plan } ∧
        plans plan after := by
  refine (advance_ensures .projection).bind ?_
  rintro _ _ ⟨rfl, rfl⟩
  exact steps.bind fun plan after holds => .pure ⟨plan, rfl, holds⟩

/-- The words of a select whose source and select list are known. -/
def wording (draft : SelectDraft) (source : String) (plan : ProjectionPlan) : String :=
  "SELECT " ++ (if draft.distinct then "DISTINCT " else "") ++ plan.selectList ++
    " FROM " ++ source ++ clause "WHERE " draft.condition ++
    clause "" draft.grouping ++ clause "" draft.ordering

theorem assemble_ensures
    {source : String}
    {plan : ProjectionPlan}
    (sourced : draft.source = some source)
    (planned : draft.plan = some plan) :
    (ofExcept draft.assemble).Ensures settings before fun select after =>
      select = ⟨draft.wording source plan, plan⟩ ∧ after = before := by
  refine .ofExcept fun select assembled => ⟨?_, rfl⟩
  simp only [assemble, sourced, planned] at assembled
  split at assembled
  · simp at assembled
  · split at assembled
    · simp at assembled
    · simpa [wording] using assembled.symm

end SelectDraft

/-- The text of a string match is that of its constant, and is found without a change. -/
theorem BuiltIn.matchedText_ensures
    {settings : Settings}
    {before : Context}
    (value : Expression) :
    (matchedText value).Ensures settings before fun text after =>
      value.constant?.bind Value.text? = some text ∧ after = before := by
  unfold matchedText
  split
  · next text found => exact .pure ⟨found, rfl⟩
  · exact .fail _

end ObjectQuery
