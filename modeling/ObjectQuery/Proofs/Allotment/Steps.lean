import ObjectQuery.Composition.Operation
import ObjectQuery.Proofs.Allotment.Basic

/-!
# Resolutions go through alias events

What a context holds of aliases and open scopes is a state of allotment. A resolution goes
through events if it leads this state where the events lead it, and reports a duplicate alias
only where the events end with that alias refused. There is one rule for each way in which
resolutions are put together.

A context searches for a free alias from the number that it has counted for the base, and not
from zero. It finds the same alias as long as every smaller number is used up.
-/

namespace ObjectQuery

/-! ## States of contexts -/

/-- What a context holds of aliases and open scopes. -/
def Context.aliasState (context : Context) : AliasState :=
  { scope := context.current.sequence
    policy := context.current.aliasMode
    enclosing := context.enclosing.map fun scope => (scope.sequence, scope.aliasMode)
    nextScope := context.nextSequence
    used := context.aliases }

/-- The lowest free count is free, and no lower one is. -/
theorem AliasState.freeCount_spec (state : AliasState) (base : String) :
    generatedAlias base state.scope (state.freeCount base) ∉ state.used ∧
      ∀ count < state.freeCount base, generatedAlias base state.scope count ∈ state.used := by
  -- Nothing is counted yet in a scope that has just been opened, so the search starts at zero.
  let context : Context :=
    { Context.root .auto none with
      current := Scope.empty state.scope .auto
      aliases := state.used }
  have fresh : context.IsFresh base (state.freeCount base) := context.isFresh_freshCount base
  exact ⟨fresh.unused, fun count lower => fresh.least count (Nat.zero_le count) lower⟩

namespace Context

/-- Every number that an open scope has counted for a base is used up. -/
def Tallied (context : Context) : Prop :=
  ∀ scope ∈ context.current :: context.enclosing, ∀ base count,
    count < scope.aliasCount base → generatedAlias base scope.sequence count ∈ context.aliases

theorem tallied_root (policy : AliasPolicy) (catalog : Option Catalog) :
    (Context.root policy catalog).Tallied := by
  simp [Tallied, root, Scope.empty, Scope.aliasCount]

namespace Tallied

variable {context before after : Context} (tallied : context.Tallied)

include tallied

theorem mem_of_lt_freshCount
    {base : String}
    {count : Nat}
    (lower : count < context.freshCount base) :
    generatedAlias base context.current.sequence count ∈ context.aliases := by
  by_cases counted : count < context.current.aliasCount base
  · exact tallied context.current List.mem_cons_self base count counted
  · exact (context.isFresh_freshCount base).least count (Nat.not_lt.mp counted) lower

/-- A search that starts where the scope has counted to ends at the lowest free count. -/
theorem freshCount_eq (base : String) :
    context.freshCount base = context.aliasState.freeCount base := by
  obtain ⟨unused, least⟩ := context.aliasState.freeCount_spec base
  refine Nat.le_antisymm (Nat.not_lt.mp fun lower => ?_) (Nat.not_lt.mp fun lower => ?_)
  · exact unused (tallied.mem_of_lt_freshCount lower)
  · exact (context.isFresh_freshCount base).unused (least _ lower)

theorem useAlias (aliasName : String) : (context.useAlias aliasName).Tallied :=
  fun scope member base count counted =>
    List.mem_append_left _ (tallied scope member base count counted)

/-- A scope that counts up to a free alias has used up what it counts. -/
theorem useFresh (base : String) :
    ((context.countAlias base (context.freshCount base + 1)).useAlias
      (generatedAlias base context.current.sequence (context.freshCount base))).Tallied := by
  intro scope member base' count counted
  rcases List.mem_cons.mp member with rfl | outer
  · simp only [Context.useAlias, countAlias, Scope.aliasCount, List.mem_append,
      List.mem_singleton] at counted ⊢
    by_cases same : base = base'
    · subst same
      rw [Table.find?_put_self, Option.getD_some] at counted
      rcases Nat.lt_succ_iff_lt_or_eq.mp counted with lower | rfl
      · exact .inl (tallied.mem_of_lt_freshCount lower)
      · exact .inr rfl
    · rw [Table.find?_put_of_ne same] at counted
      exact .inl (tallied context.current List.mem_cons_self base' count counted)
  · exact List.mem_append_left _
      (tallied scope (List.mem_cons_of_mem _ outer) base' count counted)

theorem bind (binding : BoundTarget) : (context.bind binding).Tallied := by
  intro scope member
  rcases List.mem_cons.mp member with rfl | outer
  · exact tallied context.current List.mem_cons_self
  · exact tallied scope (List.mem_cons_of_mem _ outer)

theorem enter (policy : AliasPolicy) : (context.enter policy).Tallied := by
  intro scope member base count counted
  rcases List.mem_cons.mp member with rfl | outer
  · simp [Context.enter, Scope.empty, Scope.aliasCount] at counted
  · exact tallied scope outer base count counted

omit tallied in
theorem leave
    (tallied : after.Tallied)
    (inside : after.enclosing = before.current :: before.enclosing) :
    (after.leave before).Tallied :=
  fun scope member => tallied scope (List.mem_cons_of_mem _ (inside ▸ member))

end Tallied
end Context

namespace Resolution

variable {first second : Type}

/-! ## Rules -/

/-- What comes of a step that goes through events. -/
def Allotted (events : List AliasEvent) (before : Context) :
    Except ResolutionError first × Context → Prop
  | (.ok _, after) =>
      after.Tallied ∧
        after.enclosing = before.enclosing ∧
        before.aliasState.run events = .ok after.aliasState
  | (.error error, _) =>
      ∀ refused, error = .duplicateAlias refused →
        before.aliasState.run events = .error refused

/-- From every tallied context a step goes through the events. -/
def Allots
    (step : Resolution first)
    (settings : Settings)
    (events : List AliasEvent) : Prop :=
  ∀ before : Context, before.Tallied → Allotted events before (step settings before)

namespace Allots

variable
  {settings : Settings}
  {events events' : List AliasEvent}

theorem pure (result : first) : (Pure.pure result : Resolution first).Allots settings [] :=
  fun _ tallied => ⟨tallied, rfl, rfl⟩

theorem fail
    {error : ResolutionError}
    (other : ∀ refused, error ≠ .duplicateAlias refused) :
    (Resolution.fail error : Resolution first).Allots settings events :=
  fun _ _ refused duplicate => absurd duplicate (other refused)

theorem unsupported (construct : String) :
    (Resolution.unsupported construct : Resolution first).Allots settings events :=
  fun _ _ _ => nofun

theorem ofExcept
    {outcome : Except ResolutionError first}
    (other : ∀ refused, outcome ≠ .error (.duplicateAlias refused)) :
    (Resolution.ofExcept outcome).Allots settings [] := by
  intro before tallied
  cases outcome with
  | ok result => exact ⟨tallied, rfl, rfl⟩
  | error error =>
      exact fun refused duplicate => absurd (congrArg Except.error duplicate) (other refused)

theorem dialect : Resolution.dialect.Allots settings [] :=
  fun _ tallied => ⟨tallied, rfl, rfl⟩

theorem context : Resolution.context.Allots settings [] :=
  fun _ tallied => ⟨tallied, rfl, rfl⟩

theorem parameterCount : Resolution.parameterCount.Allots settings [] :=
  fun _ tallied => ⟨tallied, rfl, rfl⟩

/-- The events of two steps come one after the other. -/
theorem bind
    {step : Resolution first}
    {next : first → Resolution second}
    (steps : step.Allots settings events)
    (nexts : ∀ result, (next result).Allots settings events') :
    (step >>= next).Allots settings (events ++ events') := by
  intro before tallied
  have allotted := steps before tallied
  rw [bind_apply]
  cases ran : step settings before with
  | mk outcome between =>
      rw [ran] at allotted
      cases outcome with
      | error error =>
          exact fun refused duplicate =>
            AliasState.run_append_of_error (allotted refused duplicate)
      | ok result =>
          obtain ⟨tallied', enclosing, reaches⟩ := allotted
          have allotted' := nexts result between tallied'
          simp only
          cases ran' : next result settings between with
          | mk outcome' after =>
              rw [ran'] at allotted'
              cases outcome' with
              | ok result' =>
                  obtain ⟨tallied'', enclosing', reaches'⟩ := allotted'
                  exact ⟨tallied'', enclosing'.trans enclosing,
                    (AliasState.run_append_of_ok reaches).trans reaches'⟩
              | error error =>
                  exact fun refused duplicate =>
                    (AliasState.run_append_of_ok reaches).trans (allotted' refused duplicate)

/-- A step without events, and another. -/
theorem afterSilent
    {step : Resolution first}
    {next : first → Resolution second}
    (steps : step.Allots settings [])
    (nexts : ∀ result, (next result).Allots settings events) :
    (step >>= next).Allots settings events :=
  steps.bind nexts

/-- A step, and another without events. -/
theorem thenSilent
    {step : Resolution first}
    {next : first → Resolution second}
    (steps : step.Allots settings events)
    (nexts : ∀ result, (next result).Allots settings []) :
    (step >>= next).Allots settings events := by
  rw [← List.append_nil events]
  exact steps.bind nexts

theorem bindChecked
    {outcome : Checked}
    {next : Unit → Resolution first}
    (nexts : outcome = .ok () → (next ()).Allots settings events) :
    (Resolution.ofChecked outcome >>= next).Allots settings events := by
  cases outcome with
  | ok found => exact nexts rfl
  | error fault => exact fun _ _ refused => nofun

/-- A text is given as an answer. -/
theorem answer {step : Resolution String} (steps : step.Allots settings events) :
    (do let text ← step; return Resolved.fragment text).Allots settings events :=
  steps.thenSilent fun _ => .pure _

theorem withHint
    {step : Resolution first}
    (steps : step.Allots settings events)
    (hint : ValueType) :
    (Resolution.withHint hint step).Allots settings events := by
  intro before tallied
  have allotted := steps { before with hint := some hint } tallied
  simp only [Resolution.withHint]
  cases ran : step settings { before with hint := some hint } with
  | mk outcome after =>
      rw [ran] at allotted
      cases outcome with
      | ok result => exact allotted
      | error error => exact allotted

/-- A sub-query opens a scope, goes through its own events, and closes the scope. -/
theorem nested {step : Resolution first} (steps : step.Allots settings events) :
    (do
      let context ← Resolution.context
      Resolution.inChild (BuiltIn.childMode context.current.aliasMode) step).Allots settings
        (AliasEvent.opens :: (events ++ [AliasEvent.closes])) := by
  intro before tallied
  have run : (do
      let context ← Resolution.context
      Resolution.inChild (BuiltIn.childMode context.current.aliasMode) step) settings before =
        Resolution.inChild (BuiltIn.childMode before.current.aliasMode) step settings before :=
    rfl
  rw [run]
  simp only [Resolution.inChild]
  split
  · exact fun _ => nofun
  · have allotted := steps _ (tallied.enter (BuiltIn.childMode before.current.aliasMode))
    have opened : before.aliasState.apply .opens =
        .ok (before.enter (BuiltIn.childMode before.current.aliasMode)).aliasState := rfl
    cases ran : step settings (before.enter (BuiltIn.childMode before.current.aliasMode)) with
    | mk outcome after =>
        rw [ran] at allotted
        cases outcome with
        | error error =>
            intro refused duplicate
            rw [AliasState.run_cons_of_ok opened]
            exact AliasState.run_append_of_error (allotted refused duplicate)
        | ok result =>
            obtain ⟨tallied', inside, reaches⟩ := allotted
            have closed : after.aliasState.apply .closes =
                .ok (after.leave before).aliasState := by
              simp only [AliasState.apply, Context.aliasState, inside, Context.enter,
                List.map_cons, Context.leave]
            refine ⟨tallied'.leave inside, rfl, ?_⟩
            rw [AliasState.run_cons_of_ok opened, AliasState.run_append_of_ok reaches,
              AliasState.run_cons_of_ok closed]
            rfl

end Allots

/-! ## Primitive steps -/

section Primitive

variable {settings : Settings}

theorem newReference_allots (value : Value) (valueType : ValueType) :
    (newReference value valueType).Allots settings [] := by
  have names : (newParameter value valueType).Allots settings [] :=
    fun _ tallied => ⟨tallied, rfl, rfl⟩
  exact names.afterSilent fun _ => .afterSilent .dialect fun _ => .pure _

theorem lookup_allots (qualifier : String) : (lookup qualifier).Allots settings [] := by
  refine .afterSilent .context fun context => ?_
  split
  · exact .pure _
  · exact .fail (by simp)

theorem qualifyingAlias_allots (qualifier : String) :
    (qualifyingAlias qualifier).Allots settings [] := by
  refine .afterSilent .context fun context => ?_
  split
  · exact .pure _
  · refine (lookup_allots qualifier).afterSilent fun binding => ?_
    split
    · exact .pure _
    · exact .unsupported _

/-- The one step that uses aliases. -/
theorem allocateAlias_allots (target : Target) :
    (allocateAlias target.name target.aliasName).Allots settings [.declares target] := by
  intro before tallied
  have run := before.aliasState.run_declares target
  simp only [allocateAlias]
  split
  · next mode =>
      exact ⟨tallied, rfl, run.trans (AliasState.declare_of_unsupported mode)⟩
  · next given named supported =>
      rw [AliasState.declare_of_given supported named] at run
      split
      · next used =>
          rintro refused ⟨⟩
          rw [run]
          exact if_pos (List.contains_iff_mem.mp used)
      · next unused =>
          refine ⟨tallied.useAlias given, rfl, ?_⟩
          rw [run]
          exact if_neg (mt List.contains_iff_mem.mpr unused)
  · next mode unnamed =>
      exact ⟨tallied, rfl, run.trans (AliasState.declare_of_default mode unnamed)⟩
  · next mode unnamed =>
      refine ⟨tallied.useFresh _, rfl, ?_⟩
      rw [run, AliasState.declare_of_auto mode unnamed, tallied.freshCount_eq]
      rfl

theorem introduce_allots (target : Target) :
    (introduce target).Allots settings [.declares target] := by
  have asks : (askCatalog target.name).Allots settings [] := by
    intro before tallied
    simp only [askCatalog]
    split
    · exact ⟨tallied, rfl, rfl⟩
    · exact ⟨tallied, rfl, rfl⟩
  have entities : (targetEntity target).Allots settings [] := by
    refine asks.afterSilent fun answer => ?_
    split
    · exact .pure _
    · exact .pure _
    · exact .pure _
    · exact .fail (by simp)
    · exact .pure _
  have binds (binding : BoundTarget) : (modify (·.bind binding)).Allots settings [] :=
    fun _ tallied => ⟨tallied.bind binding, rfl, rfl⟩
  exact entities.afterSilent fun _ => (allocateAlias_allots target).thenSilent fun _ =>
    (binds _).afterSilent fun _ => .pure _

end Primitive
end Resolution

/-! ## The registry -/

namespace Resolvers

open Resolution

variable
  {settings : Settings}
  {expression : Expression}
  {own : Resolution Resolved}
  {events : List AliasEvent}
  (owns : expression.validate = .ok () → own.Allots settings events)

include owns

/-- An answer that is passed over ends the run, since the library has no other. -/
theorem dispatch_allots (output : OutputKind) :
    (standard.dispatch expression output own).Allots settings events := by
  refine .bindChecked fun valid => ?_
  rw [standard_candidates]
  split
  · refine .afterSilent .parameterCount fun bound => ?_
    refine ((owns valid).thenSilent fun resolved => .pure _).thenSilent fun found => ?_
    have forgets : (forgetParameters bound).Allots settings [] :=
      fun _ tallied => ⟨tallied, rfl, rfl⟩
    have fails : (do
        forgetParameters bound
        firstAcceptable expression.kind output [] : Resolution Resolved).Allots settings [] :=
      forgets.afterSilent fun _ => .fail (by simp)
    split
    · split
      · exact .pure _
      · exact fails
    · exact fails
  · exact .fail (by simp)

theorem fragment_allots : (standard.fragment expression own).Allots settings events := by
  refine (dispatch_allots owns .fragment).thenSilent fun resolved => ?_
  cases resolved with
  | fragment text => exact .pure _
  | emptyPredicate => exact .fail (by simp)
  | projection plan => exact .fail (by simp)

theorem predicate_allots : (standard.predicate expression own).Allots settings events := by
  have optional : (standard.predicate? expression own).Allots settings events := by
    refine (dispatch_allots owns .fragment).thenSilent fun resolved => ?_
    cases resolved with
    | fragment text => exact .pure _
    | emptyPredicate => exact .pure _
    | projection plan => exact .fail (by simp)
  refine optional.thenSilent fun found => ?_
  cases found with
  | some text => exact .pure _
  | none => exact .fail (by simp)

theorem plan_allots : (standard.plan expression own).Allots settings events := by
  refine (dispatch_allots owns .projection).thenSilent fun resolved => ?_
  cases resolved with
  | fragment text => exact .fail (by simp)
  | emptyPredicate => exact .fail (by simp)
  | projection plan => exact .pure _

end Resolvers

/-! ## Stages of a select -/

namespace SelectDraft

open Resolution

variable {settings : Settings} {events : List AliasEvent}

theorem advance_allots (draft : SelectDraft) (next : Stage) :
    (ofExcept (draft.advance next)).Allots settings [] := by
  refine .ofExcept fun refused => ?_
  unfold advance
  split
  · simp
  · split <;> simp

theorem assemble_allots (draft : SelectDraft) :
    (ofExcept draft.assemble).Allots settings [] := by
  refine .ofExcept fun refused => ?_
  unfold assemble
  split
  · simp
  · split
    · simp
    · split
      · simp
      · split <;> simp

variable {step : Resolution String} (steps : step.Allots settings events)

include steps

theorem withTarget_allots (draft : SelectDraft) :
    (draft.withTarget step).Allots settings events :=
  .afterSilent (draft.advance_allots .target) fun _ => steps.thenSilent fun _ => .pure _

theorem withFilter_allots (draft : SelectDraft) :
    (draft.withFilter step).Allots settings events :=
  .afterSilent (draft.advance_allots .filter) fun _ => steps.thenSilent fun _ => .pure _

theorem withAggregation_allots (draft : SelectDraft) :
    (draft.withAggregation step).Allots settings events :=
  .afterSilent (draft.advance_allots .aggregation) fun _ => steps.thenSilent fun _ => .pure _

theorem withSort_allots (draft : SelectDraft) :
    (draft.withSort step).Allots settings events :=
  .afterSilent (draft.advance_allots .sort) fun _ => steps.thenSilent fun _ => .pure _

omit steps in
theorem withProjection_allots
    {step : Resolution ProjectionPlan}
    (steps : step.Allots settings events)
    (draft : SelectDraft) :
    (draft.withProjection step).Allots settings events :=
  .afterSilent (draft.advance_allots .projection) fun _ => steps.thenSilent fun _ => .pure _

end SelectDraft
end ObjectQuery
