import ObjectQuery.Resolution.Resolvers

/-!
# Resolutions in lockstep

Two contexts are alike when they differ at most in the values bound to their parameters,
in the types those are bound with, and in the type expected of the next constant. Two
resolutions run in lockstep when, from alike contexts, both succeed with related results
or both fail with the same error, and end in alike contexts again.

Lockstep is kept by every way in which the library puts resolutions together, up to the
choice of an answer by the standard registry. Nothing that a resolution does to a context
depends on a bound value, so each primitive step is in lockstep with itself.
-/

namespace ObjectQuery

/-- Contexts that differ at most in bound values, their types and the expected type. -/
structure Context.Alike (left right : Context) : Prop where
  current : left.current = right.current
  enclosing : left.enclosing = right.enclosing
  names : left.parameters.names = right.parameters.names
  aliases : left.aliases = right.aliases
  nextSequence : left.nextSequence = right.nextSequence
  catalog : left.catalog = right.catalog

namespace Context
namespace Alike

variable {left right : Context}

theorem refl (context : Context) : context.Alike context :=
  ⟨rfl, rfl, rfl, rfl, rfl, rfl⟩

theorem size (alike : left.Alike right) : left.parameters.size = right.parameters.size := by
  have lengths := congrArg List.length alike.names
  simpa [ParameterTable.names, ParameterTable.size] using lengths

theorem depth (alike : left.Alike right) : left.depth = right.depth := by
  rw [Context.depth, Context.depth, alike.enclosing]

theorem isRoot (alike : left.Alike right) : left.isRoot = right.isRoot := by
  rw [Context.isRoot, Context.isRoot, alike.enclosing]

theorem find? (alike : left.Alike right) (qualifier : String) :
    left.find? qualifier = right.find? qualifier := by
  rw [Context.find?, Context.find?, alike.current, alike.enclosing]

theorem rootTarget? (alike : left.Alike right) : left.rootTarget? = right.rootTarget? := by
  rw [Context.rootTarget?, Context.rootTarget?, alike.current]

theorem freshCount (alike : left.Alike right) (base : String) :
    left.freshCount base = right.freshCount base := by
  simp only [Context.freshCount, alike.current, alike.aliases]

theorem useAlias (alike : left.Alike right) (aliasName : String) :
    (left.useAlias aliasName).Alike (right.useAlias aliasName) :=
  { alike with aliases := congrArg (· ++ [aliasName]) alike.aliases }

theorem countAlias (alike : left.Alike right) (base : String) (count : Nat) :
    (left.countAlias base count).Alike (right.countAlias base count) :=
  { alike with current := by simp only [Context.countAlias, alike.current] }

theorem bind (alike : left.Alike right) (binding : BoundTarget) :
    (left.bind binding).Alike (right.bind binding) :=
  { alike with current := by simp only [Context.bind, alike.current] }

theorem enter (alike : left.Alike right) (aliasMode : AliasPolicy) :
    (left.enter aliasMode).Alike (right.enter aliasMode) where
  current := by simp only [Context.enter, alike.nextSequence]
  enclosing := by simp only [Context.enter, alike.current, alike.enclosing]
  names := alike.names
  aliases := alike.aliases
  nextSequence := congrArg (· + 1) alike.nextSequence
  catalog := alike.catalog

theorem leave
    {before before' : Context}
    (alike : left.Alike right)
    (alikeBefore : before.Alike before') :
    (left.leave before).Alike (right.leave before') :=
  { alike with
    current := alikeBefore.current
    enclosing := alikeBefore.enclosing }

theorem withHint (alike : left.Alike right) (hint hint' : Option ValueType) :
    Context.Alike { left with hint } { right with hint := hint' } :=
  { alike with }

theorem withCatalog (alike : left.Alike right) (catalog : Option Catalog) :
    Context.Alike { left with catalog } { right with catalog } :=
  { alike with catalog := rfl }

/-- Parameters of one name may be bound to different values. -/
theorem push
    (alike : left.Alike right)
    (name : String)
    (parameter parameter' : Parameter) :
    Context.Alike
      { left with parameters := left.parameters.push name parameter }
      { right with parameters := right.parameters.push name parameter' } :=
  { alike with
    names := by
      have names := alike.names
      simp only [ParameterTable.names] at names
      simp [ParameterTable.names, ParameterTable.push, names] }

theorem truncate (alike : left.Alike right) (kept : Nat) :
    Context.Alike
      { left with parameters := left.parameters.truncate kept }
      { right with parameters := right.parameters.truncate kept } :=
  { alike with
    names := by
      have names := alike.names
      simp only [ParameterTable.names] at names
      simp only [ParameterTable.names, ParameterTable.truncate, List.map_take, names] }

end Alike
end Context

namespace Resolution

variable {first second : Type}

/-- Ends of two runs: related results or one error, in alike contexts. -/
inductive AlikeEnds (related : first → first → Prop) :
    Except ResolutionError first × Context → Except ResolutionError first × Context → Prop
  | ok
      {result result' : first}
      {after after' : Context}
      (results : related result result')
      (contexts : after.Alike after') :
      AlikeEnds related (.ok result, after) (.ok result', after')
  | error
      {error : ResolutionError}
      {after after' : Context}
      (contexts : after.Alike after') :
      AlikeEnds related (.error error, after) (.error error, after')

theorem AlikeEnds.outcome_eq
    {ends ends' : Except ResolutionError first × Context}
    (alike : AlikeEnds Eq ends ends') :
    ends.1 = ends'.1 := by
  cases alike with
  | ok results contexts => rw [results]
  | error contexts => rfl

/-- From alike contexts, two steps end alike. -/
def InLockstep
    (settings : Settings)
    (related : first → first → Prop)
    (left right : Resolution first) : Prop :=
  ∀ before before', Context.Alike before before' →
    AlikeEnds related (left settings before) (right settings before')

namespace InLockstep

variable {settings : Settings} {related : first → first → Prop} {left right : Resolution first}

theorem pure {result result' : first} (results : related result result') :
    InLockstep settings related (Pure.pure result) (Pure.pure result') :=
  fun _ _ alike => .ok results alike

/-- Steps in lockstep, followed by steps that are in lockstep for related results. -/
theorem bind
    {related' : second → second → Prop}
    {next next' : first → Resolution second}
    (steps : InLockstep settings related left right)
    (nexts : ∀ result result', related result result' →
      InLockstep settings related' (next result) (next' result')) :
    InLockstep settings related' (left >>= next) (right >>= next') := by
  intro before before' alike
  rw [bind_apply, bind_apply]
  have ends := steps before before' alike
  generalize left settings before = leftEnd at ends ⊢
  generalize right settings before' = rightEnd at ends ⊢
  cases ends with
  | ok results contexts => exact nexts _ _ results _ _ contexts
  | error contexts => exact .error contexts

/-- The common case of `bind`: the first steps give equal results. -/
theorem bindEq
    {left right : Resolution first}
    {related' : second → second → Prop}
    {next next' : first → Resolution second}
    (steps : InLockstep settings Eq left right)
    (nexts : ∀ result, InLockstep settings related' (next result) (next' result)) :
    InLockstep settings related' (left >>= next) (right >>= next') :=
  steps.bind fun result _ equal => equal ▸ nexts result

theorem fail (error : ResolutionError) :
    InLockstep settings related (Resolution.fail error) (Resolution.fail error) :=
  fun _ _ alike => .error alike

theorem unsupported (construct : String) :
    InLockstep settings related (Resolution.unsupported construct)
      (Resolution.unsupported construct) :=
  fun _ _ alike => .error alike

theorem ofExcept (outcome : Except ResolutionError first) :
    InLockstep settings Eq (Resolution.ofExcept outcome) (Resolution.ofExcept outcome) := by
  intro before before' alike
  cases outcome with
  | ok result => exact .ok rfl alike
  | error error => exact .error alike

theorem ofChecked (outcome : Checked) :
    InLockstep settings Eq (Resolution.ofChecked outcome) (Resolution.ofChecked outcome) := by
  intro before before' alike
  cases outcome with
  | ok result => exact .ok rfl alike
  | error fault => exact .error alike

/-- What follows on the dialect is in lockstep if it is for the dialect of the settings. -/
theorem bindDialect
    {next next' : Dialect → Resolution first}
    (nexts : InLockstep settings related (next settings.dialect) (next' settings.dialect)) :
    InLockstep settings related (Resolution.dialect >>= next) (Resolution.dialect >>= next') :=
  nexts

theorem context : InLockstep settings Context.Alike Resolution.context Resolution.context :=
  fun _ _ alike => .ok alike alike

theorem modify
    {change : Context → Context}
    (kept : ∀ {left right : Context}, left.Alike right → (change left).Alike (change right)) :
    InLockstep settings Eq (Resolution.modify change) (Resolution.modify change) :=
  fun _ _ alike => .ok rfl (kept alike)

theorem inChild (aliasMode : AliasPolicy) (steps : InLockstep settings related left right) :
    InLockstep settings related (Resolution.inChild aliasMode left)
      (Resolution.inChild aliasMode right) := by
  intro before before' alike
  simp only [Resolution.inChild, alike.depth]
  by_cases tooDeep : settings.depthLimit < before'.depth + 1
  · simp only [tooDeep, if_true]
    exact .error alike
  · simp only [tooDeep, if_false]
    have ends := steps _ _ (alike.enter aliasMode)
    generalize left settings (before.enter aliasMode) = leftEnd at ends ⊢
    generalize right settings (before'.enter aliasMode) = rightEnd at ends ⊢
    cases ends with
    | ok results contexts => exact .ok results (contexts.leave alike)
    | error contexts => exact .error (contexts.leave alike)

/-- The expected types themselves may differ. -/
theorem withHint (hint hint' : ValueType) (steps : InLockstep settings related left right) :
    InLockstep settings related (Resolution.withHint hint left)
      (Resolution.withHint hint' right) := by
  intro before before' alike
  simp only [Resolution.withHint]
  have ends := steps _ _ (alike.withHint (some hint) (some hint'))
  generalize left settings { before with hint := some hint } = leftEnd at ends ⊢
  generalize right settings { before' with hint := some hint' } = rightEnd at ends ⊢
  cases ends with
  | ok results contexts => exact .ok results (contexts.withHint _ _)
  | error contexts => exact .error (contexts.withHint _ _)

end InLockstep

/-! ## Primitive steps -/

variable {settings : Settings}

theorem allocateAlias_lockstep (name : String) (given : Option String) :
    InLockstep settings Eq (allocateAlias name given) (allocateAlias name given) := by
  intro before before' alike
  simp only [allocateAlias, alike.current, alike.aliases, alike.freshCount]
  split
  · exact .ok rfl alike
  · split
    · exact .error alike
    · exact .ok rfl (alike.useAlias _)
  · exact .ok rfl alike
  · exact .ok rfl ((alike.countAlias _ _).useAlias _)

theorem askCatalog_lockstep (name : String) :
    InLockstep settings Eq (askCatalog name) (askCatalog name) := by
  intro before before' alike
  simp only [askCatalog, alike.catalog]
  split
  · exact .ok rfl alike
  · exact .ok rfl (alike.withCatalog _)

theorem targetEntity_lockstep (target : Target) :
    InLockstep settings Eq (targetEntity target) (targetEntity target) := by
  refine (askCatalog_lockstep target.name).bindEq fun answer => ?_
  split
  · exact .pure rfl
  · exact .pure rfl
  · exact .pure rfl
  · exact .fail _
  · exact .pure rfl

theorem introduce_lockstep (target : Target) :
    InLockstep settings Eq (introduce target) (introduce target) := by
  refine (targetEntity_lockstep target).bindEq fun known => ?_
  refine (allocateAlias_lockstep target.name target.aliasName).bindEq fun aliasName => ?_
  refine (InLockstep.modify fun alike => alike.bind _).bindEq fun _ => ?_
  exact .pure rfl

theorem lookup_lockstep (qualifier : String) :
    InLockstep settings Eq (lookup qualifier) (lookup qualifier) := by
  refine InLockstep.context.bind fun context context' alike => ?_
  simp only [alike.find?]
  split
  · exact .pure rfl
  · exact .fail _

theorem aliasOf_lockstep (qualifier : String) :
    InLockstep settings Eq (aliasOf qualifier) (aliasOf qualifier) :=
  (lookup_lockstep qualifier).bindEq fun _ => .pure rfl

theorem qualifyingAlias_lockstep (qualifier : String) :
    InLockstep settings Eq (qualifyingAlias qualifier) (qualifyingAlias qualifier) := by
  refine InLockstep.context.bind fun context context' alike => ?_
  simp only [alike.current]
  split
  · exact .pure rfl
  · refine (lookup_lockstep qualifier).bindEq fun binding => ?_
    split
    · exact .pure rfl
    · exact .unsupported _

/-- The name of a new parameter does not depend on its value. -/
theorem newParameter_lockstep (value value' : Value) (valueType valueType' : ValueType) :
    InLockstep settings Eq (newParameter value valueType) (newParameter value' valueType') := by
  intro before before' alike
  simp only [newParameter, alike.size]
  exact .ok rfl (alike.push _ _ _)

theorem newReference_lockstep (value value' : Value) (valueType valueType' : ValueType) :
    InLockstep settings Eq (newReference value valueType) (newReference value' valueType') :=
  (newParameter_lockstep value value' valueType valueType').bindEq fun _ =>
    .bindDialect (.pure rfl)

theorem parameterCount_lockstep : InLockstep settings Eq parameterCount parameterCount :=
  fun _ _ alike => .ok alike.size alike

theorem forgetParameters_lockstep (kept : Nat) :
    InLockstep settings Eq (forgetParameters kept) (forgetParameters kept) :=
  .modify fun alike => alike.truncate kept

end Resolution

/-- Plans with the same select list whose readings fit the same select lists. -/
structure ProjectionPlan.Alike (left right : ProjectionPlan) : Prop where
  selections : left.selections = right.selections
  columns : ∀ length, left.converter.columnsWithin length = right.converter.columnsWithin length

theorem ProjectionPlan.Alike.fault?
    {left right : ProjectionPlan}
    (alike : left.Alike right) :
    left.fault? = right.fault? := by
  simp only [ProjectionPlan.fault?, alike.selections, alike.columns]

/-- Answers with the same text, or with alike plans. -/
inductive Resolved.Alike : Resolved → Resolved → Prop
  | fragment (text : String) : Resolved.Alike (.fragment text) (.fragment text)
  | emptyPredicate : Resolved.Alike .emptyPredicate .emptyPredicate
  | projection
      {plan plan' : ProjectionPlan}
      (plans : plan.Alike plan') :
      Resolved.Alike (.projection plan) (.projection plan')

theorem Resolved.Alike.isAcceptable
    {resolved resolved' : Resolved}
    (alike : resolved.Alike resolved')
    (output : OutputKind) :
    resolved.isAcceptable output = resolved'.isAcceptable output := by
  cases alike with
  | fragment text => rfl
  | emptyPredicate => rfl
  | projection plans =>
      simp only [Resolved.isAcceptable, Resolved.outputKind, Resolved.fault?, plans.fault?]

namespace Resolvers

open Resolution

variable {settings : Settings}
variable {expression expression' : Expression} {own own' : Resolution Resolved}

theorem dispatch_lockstep
    (valid : expression.validate = expression'.validate)
    (kind : expression.kind = expression'.kind)
    (output : OutputKind)
    (owns : InLockstep settings Resolved.Alike own own') :
    InLockstep settings Resolved.Alike (standard.dispatch expression output own)
      (standard.dispatch expression' output own') := by
  simp only [dispatch, valid, kind, standard_candidates]
  refine (InLockstep.ofChecked _).bindEq fun _ => ?_
  split
  · refine parameterCount_lockstep.bindEq fun bound => ?_
    have attempts : InLockstep settings (Option.Rel Resolved.Alike)
        (do let resolved ← own; return some resolved)
        (do let resolved ← own'; return some resolved) :=
      owns.bind fun _ _ alike => .pure (.some alike)
    refine attempts.bind fun _ _ answers => ?_
    cases answers with
    | none => exact (forgetParameters_lockstep bound).bindEq fun _ => .fail _
    | some alike =>
        simp only [alike.isAcceptable]
        split
        · exact .pure alike
        · exact (forgetParameters_lockstep bound).bindEq fun _ => .fail _
  · exact .fail _

theorem fragment_lockstep
    (valid : expression.validate = expression'.validate)
    (kind : expression.kind = expression'.kind)
    (owns : InLockstep settings Resolved.Alike own own') :
    InLockstep settings Eq (standard.fragment expression own)
      (standard.fragment expression' own') := by
  refine (dispatch_lockstep valid kind .fragment owns).bind fun _ _ alike => ?_
  cases alike with
  | fragment text => exact .pure rfl
  | emptyPredicate => exact .fail _
  | projection plans => exact .fail _

theorem predicate_lockstep
    (valid : expression.validate = expression'.validate)
    (kind : expression.kind = expression'.kind)
    (owns : InLockstep settings Resolved.Alike own own') :
    InLockstep settings Eq (standard.predicate expression own)
      (standard.predicate expression' own') := by
  have conditions : InLockstep settings Eq (standard.predicate? expression own)
      (standard.predicate? expression' own') := by
    refine (dispatch_lockstep valid kind .fragment owns).bind fun _ _ alike => ?_
    cases alike with
    | fragment text => exact .pure rfl
    | emptyPredicate => exact .pure rfl
    | projection plans => exact .fail _
  refine conditions.bindEq fun found => ?_
  cases found with
  | some text => exact .pure rfl
  | none => exact .fail _

theorem plan_lockstep
    (valid : expression.validate = expression'.validate)
    (kind : expression.kind = expression'.kind)
    (owns : InLockstep settings Resolved.Alike own own') :
    InLockstep settings ProjectionPlan.Alike (standard.plan expression own)
      (standard.plan expression' own') := by
  refine (dispatch_lockstep valid kind .projection owns).bind fun _ _ alike => ?_
  cases alike with
  | fragment text => exact .fail _
  | emptyPredicate => exact .fail _
  | projection plans => exact .pure plans

end Resolvers
end ObjectQuery
