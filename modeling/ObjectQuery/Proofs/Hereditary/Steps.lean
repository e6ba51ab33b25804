import ObjectQuery.Composition.Operation
import ObjectQuery.Resolution.Scripted

/-!
# Hereditary properties of resolutions

A property of resolutions is hereditary when the primitive steps have it and every way of
putting resolutions together hands it on. The library makes its answers from nothing else, so
they have every hereditary property, and so have the answers of a registry, as long as the
host's own resolvers have it.

What a step reads of its context may decide how it goes on, but for the catalog, which is only
asked: two contexts that differ in their catalogs alone are read alike.
-/

namespace ObjectQuery

/-- What the host's resolvers answer has a property. -/
def Resolvers.HostsHave
    (registry : Resolvers)
    (holds : {result : Type} → Resolution result → Prop) : Prop :=
  ∀ resolver ∈ registry.user ++ registry.fallback, ∀ expression,
    holds (resolver.answer expression)

namespace Resolution

/-- A property that the primitive steps have and that resolutions take over from their parts. -/
structure Hereditary (holds : {result : Type} → Resolution result → Prop) : Prop where
  pure : ∀ {result : Type} (found : result), holds (Pure.pure found)
  fail : ∀ {result : Type} (error : ResolutionError),
    holds (Resolution.fail error : Resolution result)
  bind : ∀ {first second : Type} {step : Resolution first} {next : first → Resolution second},
    holds step → (∀ found, holds (next found)) → holds (step >>= next)
  dialect : holds Resolution.dialect
  reading : ∀ {result : Type} {next : Context → Resolution result},
    (∀ context, holds (next context)) →
    (∀ context catalog, next { context with catalog } = next context) →
    holds (Resolution.context >>= next)
  binding : ∀ found : BoundTarget, holds (Resolution.modify (·.bind found))
  inChild : ∀ {result : Type} {step : Resolution result} (aliasMode : AliasPolicy),
    holds step → holds (Resolution.inChild aliasMode step)
  withHint : ∀ {result : Type} {step : Resolution result} (hint : ValueType),
    holds step → holds (Resolution.withHint hint step)
  allocateAlias : ∀ name given, holds (Resolution.allocateAlias name given)
  askCatalog : ∀ name, holds (Resolution.askCatalog name)
  newParameter : ∀ value valueType, holds (Resolution.newParameter value valueType)
  /-- Only a registry forgets parameters, and only those of the attempts that it passes over. -/
  choosing : ∀ kind output {attempts : List (Resolution (Option Resolved))},
    (∀ attempt ∈ attempts, holds attempt) →
      holds (Resolvers.firstAcceptable kind output attempts)

namespace Hereditary

variable {holds : {result : Type} → Resolution result → Prop} (hereditary : Hereditary holds)

include hereditary

/-! ## Steps -/

/-- What is made of the result of a step needs no more than the step. -/
theorem returning
    {first second : Type}
    {step : Resolution first}
    {finish : first → second}
    (steps : holds step) :
    holds (step >>= fun found => Pure.pure (finish found)) :=
  hereditary.bind steps fun _ => hereditary.pure _

theorem unsupported {result : Type} (construct : String) :
    holds (Resolution.unsupported construct : Resolution result) :=
  hereditary.bind hereditary.dialect fun dialect =>
    hereditary.fail (.unsupportedOn dialect.platform construct)

theorem ofExcept {result : Type} (outcome : Except ResolutionError result) :
    holds (Resolution.ofExcept outcome) := by
  cases outcome with
  | ok found => exact hereditary.pure found
  | error error => exact hereditary.fail error

theorem ofChecked (outcome : Checked) : holds (Resolution.ofChecked outcome) := by
  cases outcome with
  | ok found => exact hereditary.pure found
  | error fault => exact hereditary.fail (.invalid fault)

theorem introduce (target : Target) : holds (Resolution.introduce target) := by
  have entity : holds (Resolution.targetEntity target) := by
    refine hereditary.bind (hereditary.askCatalog target.name) fun answer => ?_
    split
    · exact hereditary.pure _
    · exact hereditary.pure _
    · exact hereditary.pure _
    · exact hereditary.fail _
    · exact hereditary.pure _
  refine hereditary.bind entity fun known => ?_
  refine hereditary.bind (hereditary.allocateAlias _ _) fun aliasName => ?_
  exact hereditary.returning (hereditary.binding _)

theorem lookup (qualifier : String) : holds (Resolution.lookup qualifier) := by
  refine hereditary.reading (fun context => ?_) fun _ _ => rfl
  split
  · exact hereditary.pure _
  · exact hereditary.fail _

theorem aliasOf (qualifier : String) : holds (Resolution.aliasOf qualifier) :=
  hereditary.returning (hereditary.lookup qualifier)

theorem qualifyingAlias (qualifier : String) : holds (Resolution.qualifyingAlias qualifier) := by
  refine hereditary.reading (fun context => ?_) fun _ _ => rfl
  split
  · exact hereditary.pure _
  · refine hereditary.bind (hereditary.lookup qualifier) fun binding => ?_
    split
    · exact hereditary.pure _
    · exact hereditary.unsupported _

theorem newReference (value : Value) (valueType : ValueType) :
    holds (Resolution.newReference value valueType) :=
  hereditary.bind (hereditary.newParameter value valueType) fun _ =>
    hereditary.returning hereditary.dialect

/-! ## What the library says of a node itself -/

theorem path (found : Path) : holds (BuiltIn.path found) := by
  have owner : holds (BuiltIn.owningAlias found) := by
    unfold BuiltIn.owningAlias
    split
    · exact hereditary.qualifyingAlias _
    · exact hereditary.reading (fun _ => hereditary.pure _) fun _ _ => rfl
  refine hereditary.bind owner fun aliasName => ?_
  split
  · exact hereditary.pure _
  · exact hereditary.pure _

theorem bindValue (value : Value) : holds (BuiltIn.bindValue value) :=
  hereditary.reading (fun _ => hereditary.newReference _ _) fun _ _ => rfl

theorem bindItems (items : List Value) : holds (BuiltIn.bindItems items) := by
  induction items with
  | nil => exact hereditary.pure _
  | cons item rest inductionHypothesis =>
      exact hereditary.bind (hereditary.bindValue item) fun reference =>
        hereditary.returning inductionHypothesis

theorem constant (value : Value) : holds (BuiltIn.constant value) := by
  cases value with
  | null => exact hereditary.pure _
  | list items => exact hereditary.returning (hereditary.bindItems items)
  | _ => exact hereditary.bindValue _

theorem spelled (kind : FunctionKind) (arguments : List String) (distinct : Bool) :
    holds (BuiltIn.spelled kind arguments distinct) :=
  hereditary.bind hereditary.dialect fun _ => hereditary.ofExcept _

theorem matchedText (value : Expression) : holds (BuiltIn.matchedText value) := by
  unfold BuiltIn.matchedText
  split
  · exact hereditary.pure _
  · exact hereditary.fail _

theorem matchText (left text : String) (mode : MatchMode) (ignoreCase : Bool) :
    holds (BuiltIn.matchText left text mode ignoreCase) := by
  have subject : holds (BuiltIn.matchSubject left ignoreCase) := by
    unfold BuiltIn.matchSubject
    split
    · exact hereditary.spelled _ _ _
    · exact hereditary.pure _
  refine hereditary.bind hereditary.dialect fun dialect => ?_
  exact hereditary.bind subject fun subject =>
    hereditary.returning (hereditary.newReference _ _)

theorem entityPlan (name : Option String) : holds (BuiltIn.entityPlan name) := by
  have selected : holds (BuiltIn.selectedTarget name) := by
    cases name with
    | some name => exact hereditary.lookup name
    | none =>
        refine hereditary.reading (fun context => ?_) fun _ _ => rfl
        split
        · exact hereditary.pure _
        · exact hereditary.fail _
  exact hereditary.returning selected

theorem attributesPlan : holds BuiltIn.attributesPlan := by
  refine hereditary.reading (fun context => ?_) fun _ _ => rfl
  split
  · exact hereditary.fail _
  · split
    · exact hereditary.unsupported _
    · exact hereditary.returning hereditary.dialect

theorem countPlan : holds BuiltIn.countPlan :=
  hereditary.reading
    (fun _ => hereditary.returning (hereditary.spelled _ _ _))
    fun _ _ => rfl

theorem constantPlan (value : Value) : holds (BuiltIn.constantPlan value) :=
  hereditary.bind hereditary.dialect fun _ =>
    hereditary.returning (hereditary.ofExcept _)

theorem introduceJoined (joinType : JoinType) (target : Target) :
    holds (BuiltIn.introduceJoined joinType target) := by
  refine hereditary.bind hereditary.dialect fun dialect => ?_
  refine hereditary.reading (fun context => ?_) fun _ _ => rfl
  split
  · exact hereditary.unsupported _
  · refine hereditary.bind (hereditary.introduce target) fun binding => ?_
    split
    · exact hereditary.pure _
    · exact hereditary.fail _

theorem checkCorrelations (names : List String) : holds (BuiltIn.checkCorrelations names) := by
  induction names with
  | nil => exact hereditary.pure _
  | cons name rest inductionHypothesis =>
      exact hereditary.bind (hereditary.aliasOf name) fun _ => inductionHypothesis

/-- What a scripted resolver does has every hereditary property. -/
theorem scripted
    (kind : ExpressionKind)
    (output : OutputKind)
    (start : Option String)
    (bound : List Value)
    (action : ScriptedAction)
    (expression : Expression) :
    holds ((Resolver.scripted kind output start bound action).answer expression) := by
  have binds : holds (Resolver.bindAll bound) := by
    induction bound with
    | nil => exact hereditary.pure _
    | cons value rest inductionHypothesis =>
        exact hereditary.bind (hereditary.newParameter _ _) fun _ => inductionHypothesis
  simp only [Resolver.scripted]
  split
  · exact hereditary.pure _
  · refine hereditary.bind binds fun _ => ?_
    cases action with
    | pass => exact hereditary.pure _
    | answer resolved => exact hereditary.pure _
    | fail reason => exact hereditary.fail _

/-! ## Registries -/

variable {registry : Resolvers}

/-- Every answer that is tried for a node has the property. -/
theorem candidates
    (hosts : registry.HostsHave holds)
    {expression : Expression}
    {own : Resolution Resolved}
    (output : OutputKind)
    (owns : holds own) :
    ∀ attempt ∈ registry.candidates expression output own, holds attempt := by
  have ofHosts : ∀ resolvers : List Resolver,
      (∀ resolver ∈ resolvers, resolver ∈ registry.user ++ registry.fallback) →
        ∀ attempt ∈ Resolvers.answersOf resolvers expression output, holds attempt := by
    intro resolvers among attempt member
    obtain ⟨resolver, chosen, rfl⟩ := List.mem_map.mp member
    exact hosts resolver (among resolver (List.mem_filter.mp chosen).1) expression
  intro attempt member
  rcases List.mem_append.mp member with earlier | late
  · rcases List.mem_append.mp earlier with user | library
    · exact ofHosts registry.user (fun _ => List.mem_append_left _) attempt user
    · split at library
      · obtain rfl := List.mem_singleton.mp library
        exact hereditary.returning owns
      · cases library
  · exact ofHosts registry.fallback (fun _ => List.mem_append_right _) attempt late

theorem dispatch
    (hosts : registry.HostsHave holds)
    {expression : Expression}
    {own : Resolution Resolved}
    (output : OutputKind)
    (owns : holds own) :
    holds (registry.dispatch expression output own) :=
  hereditary.bind (hereditary.ofChecked _) fun _ =>
    hereditary.choosing _ _ (hereditary.candidates hosts output owns)

theorem fragment
    (hosts : registry.HostsHave holds)
    {expression : Expression}
    {own : Resolution Resolved}
    (owns : holds own) :
    holds (registry.fragment expression own) := by
  refine hereditary.bind (hereditary.dispatch hosts .fragment owns) fun resolved => ?_
  cases resolved with
  | fragment text => exact hereditary.pure _
  | emptyPredicate => exact hereditary.fail _
  | projection plan => exact hereditary.fail _

theorem predicate
    (hosts : registry.HostsHave holds)
    {expression : Expression}
    {own : Resolution Resolved}
    (owns : holds own) :
    holds (registry.predicate expression own) := by
  have condition : holds (registry.predicate? expression own) := by
    refine hereditary.bind (hereditary.dispatch hosts .fragment owns) fun resolved => ?_
    cases resolved with
    | fragment text => exact hereditary.pure _
    | emptyPredicate => exact hereditary.pure _
    | projection plan => exact hereditary.fail _
  refine hereditary.bind condition fun found => ?_
  cases found with
  | some text => exact hereditary.pure _
  | none => exact hereditary.fail _

theorem plan
    (hosts : registry.HostsHave holds)
    {expression : Expression}
    {own : Resolution Resolved}
    (owns : holds own) :
    holds (registry.plan expression own) := by
  refine hereditary.bind (hereditary.dispatch hosts .projection owns) fun resolved => ?_
  cases resolved with
  | fragment text => exact hereditary.fail _
  | emptyPredicate => exact hereditary.fail _
  | projection plan => exact hereditary.pure _

/-! ## Drafts of a select -/

section Drafts

variable {text : Resolution String} (texts : holds text) (draft : SelectDraft)

include texts

theorem withTarget : holds (draft.withTarget text) :=
  hereditary.bind (hereditary.ofExcept _) fun _ =>
    hereditary.returning texts

theorem withFilter : holds (draft.withFilter text) :=
  hereditary.bind (hereditary.ofExcept _) fun _ =>
    hereditary.returning texts

theorem withAggregation : holds (draft.withAggregation text) :=
  hereditary.bind (hereditary.ofExcept _) fun _ =>
    hereditary.returning texts

theorem withSort : holds (draft.withSort text) :=
  hereditary.bind (hereditary.ofExcept _) fun _ =>
    hereditary.returning texts

end Drafts

theorem withProjection
    {plan : Resolution ProjectionPlan}
    (plans : holds plan)
    (draft : SelectDraft) :
    holds (draft.withProjection plan) :=
  hereditary.bind (hereditary.ofExcept _) fun _ =>
    hereditary.returning plans

end Hereditary
end Resolution
end ObjectQuery
