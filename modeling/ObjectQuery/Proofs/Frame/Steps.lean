import ObjectQuery.Proofs.Ensures

/-!
# What a step leaves as it is

A step may bind parameters, use aliases, number scopes and ask the catalog. Only a target
that it binds shows in the scope in hand, and nothing shows in the scopes around that one.
A step keeps what it must when this is so whether it succeeds or fails: there is one rule
for each way in which resolutions are put together, and none of them asks for a result.
-/

namespace ObjectQuery

/-- Which of the scopes in sight a step leaves as they are. -/
inductive Extent where
  /-- The scopes around the one in hand. -/
  | around
  /-- These and the one in hand. -/
  | all

/-- The scopes that are left as they are, innermost first. -/
def Extent.scopes : Extent → Context → List Scope
  | .around, context => context.enclosing
  | .all, context => context.current :: context.enclosing

/-- A context in which scopes and hint are as before, with no parameter or alias undone. -/
structure Context.Keeps (extent : Extent) (before after : Context) : Prop where
  scopes : extent.scopes after = extent.scopes before
  hint : after.hint = before.hint
  parameters : before.parameters.entries <+: after.parameters.entries
  aliases : before.aliases <+: after.aliases

namespace Context.Keeps

variable {extent : Extent} {before between after : Context}

theorem refl (extent : Extent) (context : Context) : context.Keeps extent context :=
  ⟨rfl, rfl, List.prefix_rfl, List.prefix_rfl⟩

theorem trans (first : before.Keeps extent between) (second : between.Keeps extent after) :
    before.Keeps extent after where
  scopes := second.scopes.trans first.scopes
  hint := second.hint.trans first.hint
  parameters := first.parameters.trans second.parameters
  aliases := first.aliases.trans second.aliases

theorem current (keeps : before.Keeps .all after) : after.current = before.current :=
  (List.cons.inj keeps.scopes).1

theorem enclosing (keeps : before.Keeps extent after) : after.enclosing = before.enclosing := by
  cases extent with
  | around => exact keeps.scopes
  | all => exact (List.cons.inj keeps.scopes).2

theorem around (keeps : before.Keeps .all after) : before.Keeps .around after :=
  { keeps with scopes := keeps.enclosing }

/-- Scopes that are left as they are show the same target under every qualifier. -/
theorem find?_eq (keeps : before.Keeps .all after) (qualifier : String) :
    after.find? qualifier = before.find? qualifier := by
  rw [find?, find?, keeps.current, keeps.enclosing]

/-- What is forgotten are only parameters that were bound in between. -/
theorem forget (keeps : before.Keeps extent after) :
    before.Keeps extent
      { after with parameters := after.parameters.truncate before.parameters.size } where
  scopes := by cases extent <;> exact keeps.scopes
  hint := keeps.hint
  parameters := by
    obtain ⟨added, entries⟩ := keeps.parameters
    simp [ParameterTable.truncate, ParameterTable.size, ← entries]
  aliases := keeps.aliases

end Context.Keeps

namespace Resolution

variable {first second : Type}

/-- What both parts do to a context, and what carries over, is done by the one after the other. A
step that fails ends the run; one that succeeds hands its context on. -/
theorem bind_relates
    {settings : Settings}
    {related : Context → Context → Prop}
    (trans : ∀ {before between after},
      related before between → related between after → related before after)
    {step : Resolution first}
    {next : first → Resolution second}
    (steps : ∀ before, related before (step settings before).2)
    (nexts : ∀ found before, related before (next found settings before).2)
    (before : Context) :
    related before ((step >>= next) settings before).2 := by
  have relates := steps before
  rw [bind_apply]
  split
  · next found between ran =>
      rw [ran] at relates
      exact trans relates (nexts found between)
  · next error between ran =>
      rw [ran] at relates
      exact relates

/-- Whatever comes of the step, it keeps what the extent says. -/
def Keeps (step : Resolution first) (settings : Settings) (extent : Extent) : Prop :=
  ∀ before : Context, before.Keeps extent (step settings before).2

namespace Keeps

variable {settings : Settings} {extent : Extent}

/-- A step that does not change the context at all. -/
theorem unchanged
    {step : Resolution first}
    (same : ∀ before, (step settings before).2 = before) :
    step.Keeps settings extent := by
  intro before
  rw [same before]
  exact .refl extent before

theorem pure (result : first) : (Pure.pure result : Resolution first).Keeps settings extent :=
  unchanged fun _ => rfl

theorem fail (error : ResolutionError) :
    (Resolution.fail error : Resolution first).Keeps settings extent :=
  unchanged fun _ => rfl

theorem unsupported (construct : String) :
    (Resolution.unsupported construct : Resolution first).Keeps settings extent :=
  unchanged fun _ => rfl

theorem ofExcept (outcome : Except ResolutionError first) :
    (Resolution.ofExcept outcome).Keeps settings extent :=
  unchanged fun _ => rfl

theorem dialect : Resolution.dialect.Keeps settings extent :=
  unchanged fun _ => rfl

theorem context : Resolution.context.Keeps settings extent :=
  unchanged fun _ => rfl

theorem bind
    {step : Resolution first}
    {next : first → Resolution second}
    (steps : step.Keeps settings extent)
    (nexts : ∀ result, (next result).Keeps settings extent) :
    (step >>= next).Keeps settings extent :=
  bind_relates .trans steps nexts

theorem bindChecked
    {outcome : Checked}
    {next : Unit → Resolution first}
    (nexts : outcome = .ok () → (next ()).Keeps settings extent) :
    (Resolution.ofChecked outcome >>= next).Keeps settings extent := by
  cases outcome with
  | ok found => exact nexts rfl
  | error fault => exact unchanged fun _ => rfl

theorem around {step : Resolution first} (steps : step.Keeps settings .all) :
    step.Keeps settings .around :=
  fun before => (steps before).around

/-- A scope of its own gives a step a place for its targets. -/
theorem inChild
    {step : Resolution first}
    (steps : step.Keeps settings .around)
    (aliasMode : AliasPolicy) :
    (Resolution.inChild aliasMode step).Keeps settings .all := by
  intro before
  have kept := steps (before.enter aliasMode)
  simp only [Resolution.inChild]
  split
  · exact .refl .all before
  · exact ⟨rfl, kept.hint, kept.parameters, kept.aliases⟩

theorem withHint
    {step : Resolution first}
    (steps : step.Keeps settings extent)
    (hint : ValueType) :
    (Resolution.withHint hint step).Keeps settings extent := by
  intro before
  have kept := steps { before with hint := some hint }
  refine ⟨?_, rfl, kept.parameters, kept.aliases⟩
  cases extent <;> exact kept.scopes

end Keeps

/-! ## Primitive steps -/

section Primitive

variable {settings : Settings}

theorem newReference_keeps (value : Value) (valueType : ValueType) :
    (newReference value valueType).Keeps settings .all := by
  have names : (newParameter value valueType).Keeps settings .all := fun before =>
    ⟨rfl, rfl, List.prefix_append _ _, List.prefix_rfl⟩
  exact names.bind fun name => .bind .dialect fun dialect => .pure _

theorem lookup_keeps (qualifier : String) : (lookup qualifier).Keeps settings .all := by
  refine .bind .context fun context => ?_
  split
  · exact .pure _
  · exact .fail _

theorem qualifyingAlias_keeps (qualifier : String) :
    (qualifyingAlias qualifier).Keeps settings .all := by
  refine .bind .context fun context => ?_
  split
  · exact .pure _
  · refine (lookup_keeps qualifier).bind fun binding => ?_
    split
    · exact .pure _
    · exact .unsupported _

theorem targetEntity_keeps (target : Target) : (targetEntity target).Keeps settings .all := by
  have asks : (askCatalog target.name).Keeps settings .all := by
    intro before
    simp only [askCatalog]
    split <;> exact ⟨rfl, rfl, List.prefix_rfl, List.prefix_rfl⟩
  refine asks.bind fun answer => ?_
  split
  · exact .pure _
  · exact .pure _
  · exact .pure _
  · exact .fail _
  · exact .pure _

/-- An alias counts in the scope in hand, and is used in the whole statement. -/
theorem allocateAlias_keeps (name : String) (given : Option String) :
    (allocateAlias name given).Keeps settings .around := by
  intro before
  simp only [allocateAlias]
  split
  · exact .refl _ _
  · split
    · exact .refl _ _
    · exact ⟨rfl, rfl, List.prefix_rfl, List.prefix_append _ _⟩
  · exact .refl _ _
  · exact ⟨rfl, rfl, List.prefix_rfl, List.prefix_append _ _⟩

theorem introduce_keeps (target : Target) : (introduce target).Keeps settings .around := by
  refine (targetEntity_keeps target).around.bind fun known => ?_
  refine (allocateAlias_keeps target.name target.aliasName).bind fun aliasName => ?_
  have binds (binding : BoundTarget) :
      (modify (·.bind binding)).Keeps settings .around := fun before =>
    ⟨rfl, rfl, List.prefix_rfl, List.prefix_rfl⟩
  exact (binds _).bind fun _ => .pure _

end Primitive
end Resolution

/-! ## The registry -/

namespace Resolvers

open Resolution

variable {settings : Settings} {extent : Extent} {expression : Expression}

/-- What every attempt does to a context, and what it comes to once the parameters bound by it are
forgotten, is what the choice among the attempts does. -/
theorem firstAcceptable_relates
    {related : Context → Context → Prop}
    (refl : ∀ context, related context context)
    (trans : ∀ {before between after},
      related before between → related between after → related before after)
    (forget : ∀ {before after}, related before after →
      related before
        { after with parameters := after.parameters.truncate before.parameters.size })
    (kind : ExpressionKind)
    (output : OutputKind)
    {attempts : List (Resolution (Option Resolved))}
    (each : ∀ attempt ∈ attempts, ∀ before, related before (attempt settings before).2)
    (before : Context) :
    related before (firstAcceptable kind output attempts settings before).2 := by
  induction attempts generalizing before with
  | nil => exact refl before
  | cons attempt rest inductionHypothesis =>
      rw [List.forall_mem_cons] at each
      obtain ⟨tried, others⟩ := each
      have relates := tried before
      have afterPass {after : Context} (relates : related before after) :
          related before ((do
            forgetParameters before.parameters.size
            firstAcceptable kind output rest) settings after).2 :=
        trans (forget relates) (inductionHypothesis others _)
      simp only [firstAcceptable, bind_apply, parameterCount]
      split
      · next found after ran =>
          rw [ran] at relates
          split
          · split
            · exact relates
            · exact afterPass relates
          · exact afterPass relates
      · next error after ran =>
          rw [ran] at relates
          exact relates

/-- An answer that is passed over leaves no parameter behind. -/
theorem firstAcceptable_keeps
    (kind : ExpressionKind)
    (output : OutputKind)
    {attempts : List (Resolution (Option Resolved))}
    (each : ∀ attempt ∈ attempts, attempt.Keeps settings extent) :
    (firstAcceptable kind output attempts).Keeps settings extent :=
  firstAcceptable_relates (.refl extent) .trans .forget kind output each

variable {own : Resolution Resolved}

/-- A node that fails its check is not resolved at all. -/
theorem dispatch_keeps
    {output : OutputKind}
    (owns : expression.validate = .ok () → own.Keeps settings extent) :
    (standard.dispatch expression output own).Keeps settings extent := by
  refine .bindChecked fun valid => ?_
  rw [standard_candidates]
  refine firstAcceptable_keeps _ _ ?_
  split
  · rw [List.forall_mem_singleton]
    exact (owns valid).bind fun resolved => .pure _
  · exact List.forall_mem_nil _

theorem fragment_keeps (owns : expression.validate = .ok () → own.Keeps settings extent) :
    (standard.fragment expression own).Keeps settings extent := by
  refine (dispatch_keeps owns).bind fun resolved => ?_
  cases resolved with
  | fragment text => exact .pure _
  | emptyPredicate => exact .fail _
  | projection plan => exact .fail _

theorem predicate_keeps (owns : expression.validate = .ok () → own.Keeps settings extent) :
    (standard.predicate expression own).Keeps settings extent := by
  have optional : (standard.predicate? expression own).Keeps settings extent := by
    refine (dispatch_keeps owns).bind fun resolved => ?_
    cases resolved with
    | fragment text => exact .pure _
    | emptyPredicate => exact .pure _
    | projection plan => exact .fail _
  refine optional.bind fun found => ?_
  cases found with
  | some text => exact .pure _
  | none => exact .fail _

theorem plan_keeps (owns : expression.validate = .ok () → own.Keeps settings extent) :
    (standard.plan expression own).Keeps settings extent := by
  refine (dispatch_keeps owns).bind fun resolved => ?_
  cases resolved with
  | fragment text => exact .fail _
  | emptyPredicate => exact .fail _
  | projection plan => exact .pure _

end Resolvers

/-! ## Stages of a select -/

namespace SelectDraft

open Resolution

variable {settings : Settings} {extent : Extent} {step : Resolution String}

theorem withTarget_keeps (draft : SelectDraft) (steps : step.Keeps settings extent) :
    (draft.withTarget step).Keeps settings extent :=
  .bind (.ofExcept _) fun _ => steps.bind fun _ => .pure _

theorem withFilter_keeps (draft : SelectDraft) (steps : step.Keeps settings extent) :
    (draft.withFilter step).Keeps settings extent :=
  .bind (.ofExcept _) fun _ => steps.bind fun _ => .pure _

theorem withAggregation_keeps (draft : SelectDraft) (steps : step.Keeps settings extent) :
    (draft.withAggregation step).Keeps settings extent :=
  .bind (.ofExcept _) fun _ => steps.bind fun _ => .pure _

theorem withSort_keeps (draft : SelectDraft) (steps : step.Keeps settings extent) :
    (draft.withSort step).Keeps settings extent :=
  .bind (.ofExcept _) fun _ => steps.bind fun _ => .pure _

theorem withProjection_keeps
    (draft : SelectDraft)
    {step : Resolution ProjectionPlan}
    (steps : step.Keeps settings extent) :
    (draft.withProjection step).Keeps settings extent :=
  .bind (.ofExcept _) fun _ => steps.bind fun _ => .pure _

end SelectDraft
end ObjectQuery
