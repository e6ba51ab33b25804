import ObjectQuery.Proofs.Ensures

/-!
# What outcomes tell of vacuous conditions

A run that succeeds has met no vacuous condition, unless its result stands for one; a run
that fails for an empty predicate has met one. What else a run fails for tells nothing.
There is one rule for each way in which resolutions are put together.
-/

namespace ObjectQuery
namespace Resolution

variable {first second : Type}

/--
What an outcome tells of whether a vacuous condition occurs in what was to be written, given
which results stand for one.
-/
def Told (isEmpty : first → Bool) (vacuous : Bool) : Except ResolutionError first → Prop
  | .ok result => isEmpty result = vacuous
  | .error error => error = .emptyPredicate → vacuous = true

/-- Every outcome of a step tells whether a vacuous condition occurs in what it writes. -/
def Tells
    (step : Resolution first)
    (settings : Settings)
    (isEmpty : first → Bool)
    (vacuous : Bool) : Prop :=
  ∀ before : Context, Told isEmpty vacuous (step settings before).1

/-- A step whose results never stand for a vacuous condition: it must fail for one. -/
abbrev Refuses (step : Resolution first) (settings : Settings) (vacuous : Bool) : Prop :=
  step.Tells settings (fun _ => false) vacuous

namespace Tells

variable
  {settings : Settings}
  {isEmpty : first → Bool}
  {isEmpty' : second → Bool}
  {vacuous vacuous' : Bool}

theorem pure (result : first) :
    (Pure.pure result : Resolution first).Tells settings isEmpty (isEmpty result) :=
  fun _ => rfl

theorem fail {error : ResolutionError} (other : error ≠ .emptyPredicate) :
    (Resolution.fail error : Resolution first).Tells settings isEmpty vacuous :=
  fun _ empty => absurd empty other

theorem failEmpty :
    (Resolution.fail .emptyPredicate : Resolution first).Tells settings isEmpty true :=
  fun _ _ => rfl

theorem unsupported (construct : String) :
    (Resolution.unsupported construct : Resolution first).Tells settings isEmpty vacuous :=
  fun _ empty => nomatch empty

theorem ofExcept
    {outcome : Except ResolutionError first}
    (other : outcome ≠ .error .emptyPredicate) :
    (Resolution.ofExcept outcome).Refuses settings false := by
  intro before
  cases outcome with
  | ok result => exact rfl
  | error error => exact fun empty => absurd (congrArg Except.error empty) other

theorem dialect : Resolution.dialect.Refuses settings false :=
  fun _ => rfl

theorem context : Resolution.context.Refuses settings false :=
  fun _ => rfl

theorem parameterCount : Resolution.parameterCount.Refuses settings false :=
  fun _ => rfl

/-- A step whose result tells something, and another that depends on it. -/
theorem bindResult
    {step : Resolution first}
    {next : first → Resolution second}
    (steps : step.Tells settings isEmpty vacuous)
    (nexts : ∀ result, isEmpty result = vacuous →
      (next result).Tells settings isEmpty' vacuous')
    (within : vacuous = true → vacuous' = true) :
    (step >>= next).Tells settings isEmpty' vacuous' := by
  intro before
  have told := steps before
  rw [bind_apply]
  cases ran : step settings before with
  | mk outcome between =>
      rw [ran] at told
      cases outcome with
      | ok result => exact nexts result told between
      | error error => exact fun empty => within (told empty)

/-- What two steps meet, one of them meets. -/
theorem bind
    {step : Resolution first}
    {next : first → Resolution second}
    (steps : step.Refuses settings vacuous)
    (nexts : ∀ result, (next result).Tells settings isEmpty' vacuous') :
    (step >>= next).Tells settings isEmpty' (vacuous || vacuous') := by
  refine steps.bindResult (fun result silent => ?_) fun met => by rw [met, Bool.true_or]
  rw [← silent, Bool.false_or]
  exact nexts result

/-- A step that meets no condition, and another. -/
theorem afterSilent
    {step : Resolution first}
    {next : first → Resolution second}
    (steps : step.Refuses settings false)
    (nexts : ∀ result, (next result).Tells settings isEmpty' vacuous') :
    (step >>= next).Tells settings isEmpty' vacuous' :=
  steps.bind nexts

/-- A step, and another that meets no condition. -/
theorem thenSilent
    {step : Resolution first}
    {next : first → Resolution second}
    (steps : step.Refuses settings vacuous)
    (nexts : ∀ result, (next result).Tells settings isEmpty' false) :
    (step >>= next).Tells settings isEmpty' vacuous := by
  rw [← Bool.or_false vacuous]
  exact steps.bind nexts

theorem bindChecked
    {outcome : Checked}
    {next : Unit → Resolution first}
    (nexts : (next ()).Tells settings isEmpty vacuous) :
    (Resolution.ofChecked outcome >>= next).Tells settings isEmpty vacuous := by
  cases outcome with
  | ok found => exact nexts
  | error fault => exact fun _ empty => absurd empty (by simp)

theorem inChild
    {step : Resolution first}
    (steps : step.Tells settings isEmpty vacuous)
    (aliasMode : AliasPolicy) :
    (Resolution.inChild aliasMode step).Tells settings isEmpty vacuous := by
  intro before
  simp only [Resolution.inChild]
  split
  · exact fun limit => absurd limit (by simp)
  · exact steps (before.enter aliasMode)

theorem withHint
    {step : Resolution first}
    (steps : step.Tells settings isEmpty vacuous)
    (hint : ValueType) :
    (Resolution.withHint hint step).Tells settings isEmpty vacuous :=
  fun before => steps { before with hint := some hint }

end Tells

/-! ## Primitive steps -/

section Primitive

variable {settings : Settings}

theorem newReference_silent (value : Value) (valueType : ValueType) :
    (newReference value valueType).Refuses settings false := by
  have names : (newParameter value valueType).Refuses settings false := fun _ => rfl
  exact names.afterSilent fun _ => .afterSilent .dialect fun _ => .pure _

theorem lookup_silent (qualifier : String) : (lookup qualifier).Refuses settings false := by
  refine .afterSilent .context fun context => ?_
  split
  · exact .pure _
  · exact .fail (by simp)

theorem qualifyingAlias_silent (qualifier : String) :
    (qualifyingAlias qualifier).Refuses settings false := by
  refine .afterSilent .context fun context => ?_
  split
  · exact .pure _
  · refine (lookup_silent qualifier).afterSilent fun binding => ?_
    split
    · exact .pure _
    · exact .unsupported _

theorem introduce_silent (target : Target) : (introduce target).Refuses settings false := by
  have asks : (askCatalog target.name).Refuses settings false := by
    intro before
    simp only [askCatalog]
    split
    · exact rfl
    · exact rfl
  have entities : (targetEntity target).Refuses settings false := by
    refine asks.afterSilent fun answer => ?_
    split
    · exact .pure _
    · exact .pure _
    · exact .pure _
    · exact .fail (by simp)
    · exact .pure _
  have allocates : (allocateAlias target.name target.aliasName).Refuses settings false := by
    intro before
    simp only [allocateAlias]
    split
    · exact rfl
    · split
      · exact fun duplicate => absurd duplicate (by simp)
      · exact rfl
    · exact rfl
    · exact rfl
  have binds (binding : BoundTarget) : (modify (·.bind binding)).Refuses settings false :=
    fun _ => rfl
  exact entities.afterSilent fun _ => allocates.afterSilent fun _ =>
    (binds _).afterSilent fun _ => .pure _

end Primitive
end Resolution

/-- An answer that stands for a vacuous condition. -/
def Resolved.isEmptyPredicate : Resolved → Bool
  | .emptyPredicate => true
  | .fragment _ | .projection _ => false

/-! ## The registry -/

namespace Resolvers

open Resolution

variable
  {settings : Settings}
  {expression : Expression}
  {own : Resolution Resolved}
  {vacuous : Bool}
  (owns : own.Tells settings Resolved.isEmptyPredicate vacuous)

include owns

/-- No answer is passed over for being an empty predicate. -/
theorem dispatch_tells (output : OutputKind) :
    (standard.dispatch expression output own).Tells settings Resolved.isEmptyPredicate vacuous := by
  refine .bindChecked ?_
  rw [standard_candidates]
  split
  · refine .afterSilent .parameterCount fun bound => ?_
    intro before
    have told := owns before
    rw [bind_apply, bind_apply]
    cases ran : own settings before with
    | mk outcome after =>
        rw [ran] at told
        cases outcome with
        | ok resolved =>
            simp only [pure_apply]
            split
            · exact told
            · exact fun unresolvable => absurd unresolvable (by simp)
        | error error => exact told
  · exact .fail (by simp)

theorem fragment_refuses : (standard.fragment expression own).Refuses settings vacuous := by
  refine (dispatch_tells owns .fragment).bindResult (fun resolved told => ?_) id
  cases resolved with
  | fragment text => exact told ▸ .pure text
  | emptyPredicate => exact told ▸ .failEmpty
  | projection plan => exact .fail (by simp)

theorem predicate_refuses : (standard.predicate expression own).Refuses settings vacuous := by
  have optional : (standard.predicate? expression own).Tells settings Option.isNone vacuous := by
    refine (dispatch_tells owns .fragment).bindResult (fun resolved told => ?_) id
    cases resolved with
    | fragment text => exact told ▸ .pure (some text)
    | emptyPredicate => exact told ▸ .pure none
    | projection plan => exact .fail (by simp)
  refine optional.bindResult (fun found told => ?_) id
  cases found with
  | some text => exact told ▸ .pure text
  | none => exact told ▸ .failEmpty

theorem plan_refuses : (standard.plan expression own).Refuses settings vacuous := by
  refine (dispatch_tells owns .projection).bindResult (fun resolved told => ?_) id
  cases resolved with
  | fragment text => exact .fail (by simp)
  | emptyPredicate => exact .fail (by simp)
  | projection plan => exact told ▸ .pure plan

end Resolvers

/-- A written text is not a vacuous condition. -/
theorem Resolution.Tells.answer
    {settings : Settings}
    {step : Resolution String}
    {vacuous : Bool}
    (steps : step.Refuses settings vacuous) :
    (do let text ← step; return Resolved.fragment text).Tells settings
      Resolved.isEmptyPredicate vacuous :=
  steps.thenSilent fun _ => .pure _

/-! ## Stages of a select -/

namespace SelectDraft

open Resolution

variable {settings : Settings} {vacuous : Bool}

theorem advance_ne_emptyPredicate (draft : SelectDraft) (next : Stage) :
    draft.advance next ≠ .error .emptyPredicate := by
  unfold advance
  split
  · simp
  · split <;> simp

theorem assemble_ne_emptyPredicate (draft : SelectDraft) :
    draft.assemble ≠ .error .emptyPredicate := by
  unfold assemble
  split
  · simp
  · split
    · simp
    · split
      · simp
      · split <;> simp

variable {step : Resolution String} (steps : step.Refuses settings vacuous)

include steps

theorem withTarget_refuses (draft : SelectDraft) :
    (draft.withTarget step).Refuses settings vacuous :=
  .afterSilent (.ofExcept (advance_ne_emptyPredicate _ _)) fun _ =>
    steps.thenSilent fun _ => .pure _

theorem withFilter_refuses (draft : SelectDraft) :
    (draft.withFilter step).Refuses settings vacuous :=
  .afterSilent (.ofExcept (advance_ne_emptyPredicate _ _)) fun _ =>
    steps.thenSilent fun _ => .pure _

theorem withAggregation_refuses (draft : SelectDraft) :
    (draft.withAggregation step).Refuses settings vacuous :=
  .afterSilent (.ofExcept (advance_ne_emptyPredicate _ _)) fun _ =>
    steps.thenSilent fun _ => .pure _

theorem withSort_refuses (draft : SelectDraft) :
    (draft.withSort step).Refuses settings vacuous :=
  .afterSilent (.ofExcept (advance_ne_emptyPredicate _ _)) fun _ =>
    steps.thenSilent fun _ => .pure _

omit steps

theorem withProjection_refuses
    {step : Resolution ProjectionPlan}
    (steps : step.Refuses settings vacuous)
    (draft : SelectDraft) :
    (draft.withProjection step).Refuses settings vacuous :=
  .afterSilent (.ofExcept (advance_ne_emptyPredicate _ _)) fun _ =>
    steps.thenSilent fun _ => .pure _

end SelectDraft
end ObjectQuery
