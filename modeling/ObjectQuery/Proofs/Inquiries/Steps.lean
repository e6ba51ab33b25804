import ObjectQuery.Composition.Operation
import ObjectQuery.Proofs.Inquiries.Validation

/-!
# How a resolution descends

A resolution at a depth descends through inquiries if it leaves the depth as it found it, asks
about nothing else, and gives the nesting limit away only where one of the inquiries lies
beyond it. That nothing else is asked about is said by watchers: resolvers that pass at the
inquiries, and may do anything elsewhere, make no difference. So the rules are about two runs,
with watchers before the library's own resolvers and without.
-/

namespace ObjectQuery

/-- The resolvers leave the node to others wherever as many sub-queries are open as are around
it, and the limit admits so many. -/
def Inquiry.PassedBy
    (inquiry : Inquiry)
    (settings : Settings)
    (watchers : List Resolver) : Prop :=
  inquiry.depth ≤ settings.depthLimit →
    ∀ watcher ∈ watchers, watcher.kind = inquiry.node.kind →
      ∀ context : Context, context.depth = inquiry.depth →
        watcher.answer inquiry.node settings context = (.ok none, context)

/-- The registry in which watchers are asked before the library's own resolvers. -/
def Resolvers.watched (watchers : List Resolver) : Resolvers :=
  ⟨watchers, true, []⟩

/-- Whether an error comes only of a failed check or of a new scope. -/
def ResolutionError.isOfDescent : ResolutionError → Bool
  | .invalid _ | .nestingLimit _ _ => true
  | _ => false

/-- What an outcome tells of inquiries: all lie within the limit, or one lies beyond it and is
met right there, or something else is wrong than a node that is at fault. -/
structure Inquiry.Told
    {result : Type}
    (limit : Nat)
    (inquiries : List Inquiry)
    (outcome : Except ResolutionError result) : Prop where
  within : ∀ found, outcome = .ok found → ∀ inquiry ∈ inquiries, inquiry.depth ≤ limit
  faultless : ∀ fault, outcome ≠ .error (.invalid fault)
  exceeded : ∀ depth bound, outcome = .error (.nestingLimit depth bound) →
    depth = limit + 1 ∧ bound = limit ∧ ∃ inquiry ∈ inquiries, limit < inquiry.depth

namespace Inquiry.Told

variable {first second : Type} {limit : Nat} {inquiries wider : List Inquiry}

theorem ofOk {found : first} (within : ∀ inquiry ∈ inquiries, inquiry.depth ≤ limit) :
    Told limit inquiries (.ok found : Except ResolutionError first) where
  within := fun _ _ => within
  faultless := fun _ => nofun
  exceeded := fun _ _ => nofun

theorem ofError {error : ResolutionError} (elsewhere : error.isOfDescent = false) :
    Told limit inquiries (.error error : Except ResolutionError first) where
  within := fun _ => nofun
  faultless := by
    rintro fault ⟨⟩
    simp [ResolutionError.isOfDescent] at elsewhere
  exceeded := by
    rintro depth bound ⟨⟩
    simp [ResolutionError.isOfDescent] at elsewhere

/-- An error tells as much of more inquiries, and in place of any result. -/
theorem widen
    {error : ResolutionError}
    (told : Told limit inquiries (.error error : Except ResolutionError first))
    (within : inquiries ⊆ wider) :
    Told limit wider (.error error : Except ResolutionError second) where
  within := fun _ => nofun
  faultless := by
    rintro fault ⟨⟩
    exact told.faultless fault rfl
  exceeded := by
    rintro depth bound ⟨⟩
    obtain ⟨depth_eq, bound_eq, inquiry, member, beyond⟩ := told.exceeded depth bound rfl
    exact ⟨depth_eq, bound_eq, inquiry, within member, beyond⟩

end Inquiry.Told

namespace Resolution

variable {first second : Type}

/-- A step that opens no scope for good and asks no resolver: the depth stays, and no error is
one of descent. -/
def StaysLevel (step : Resolution first) (settings : Settings) : Prop :=
  ∀ before : Context,
    (step settings before).2.depth = before.depth ∧
      ∀ error, (step settings before).1 = .error error → error.isOfDescent = false

namespace StaysLevel

variable {settings : Settings}

theorem pure (result : first) : (Pure.pure result : Resolution first).StaysLevel settings :=
  fun _ => ⟨rfl, fun _ => nofun⟩

theorem fail {error : ResolutionError} (elsewhere : error.isOfDescent = false) :
    (Resolution.fail error : Resolution first).StaysLevel settings := by
  refine fun _ => ⟨rfl, ?_⟩
  rintro _ ⟨⟩
  exact elsewhere

theorem unsupported (construct : String) :
    (Resolution.unsupported construct : Resolution first).StaysLevel settings := by
  refine fun _ => ⟨rfl, ?_⟩
  rintro _ ⟨⟩
  rfl

theorem ofExcept
    {outcome : Except ResolutionError first}
    (elsewhere : ∀ error, outcome = .error error → error.isOfDescent = false) :
    (Resolution.ofExcept outcome).StaysLevel settings :=
  fun _ => ⟨rfl, elsewhere⟩

theorem dialect : Resolution.dialect.StaysLevel settings :=
  fun _ => ⟨rfl, fun _ => nofun⟩

theorem context : Resolution.context.StaysLevel settings :=
  fun _ => ⟨rfl, fun _ => nofun⟩

theorem bind
    {step : Resolution first}
    {next : first → Resolution second}
    (steps : step.StaysLevel settings)
    (nexts : ∀ result, (next result).StaysLevel settings) :
    (step >>= next).StaysLevel settings := by
  intro before
  obtain ⟨depth, elsewhere⟩ := steps before
  rw [bind_apply]
  cases ran : step settings before with
  | mk outcome between =>
      rw [ran] at depth elsewhere
      cases outcome with
      | ok result =>
          obtain ⟨depth', elsewhere'⟩ := nexts result between
          exact ⟨depth'.trans depth, elsewhere'⟩
      | error error =>
          refine ⟨depth, ?_⟩
          rintro _ ⟨⟩
          exact elsewhere error rfl

end StaysLevel

/-! ## Primitive steps -/

section Primitive

variable {settings : Settings}

theorem newReference_level (value : Value) (valueType : ValueType) :
    (newReference value valueType).StaysLevel settings := by
  have names : (newParameter value valueType).StaysLevel settings :=
    fun _ => ⟨rfl, fun _ => nofun⟩
  exact names.bind fun _ => .bind .dialect fun _ => .pure _

theorem parameterCount_level : parameterCount.StaysLevel settings :=
  fun _ => ⟨rfl, fun _ => nofun⟩

theorem forgetParameters_level (kept : Nat) : (forgetParameters kept).StaysLevel settings :=
  fun _ => ⟨rfl, fun _ => nofun⟩

theorem lookup_level (qualifier : String) : (lookup qualifier).StaysLevel settings := by
  refine .bind .context fun context => ?_
  split
  · exact .pure _
  · exact .fail rfl

theorem qualifyingAlias_level (qualifier : String) :
    (qualifyingAlias qualifier).StaysLevel settings := by
  refine .bind .context fun context => ?_
  split
  · exact .pure _
  · refine (lookup_level qualifier).bind fun binding => ?_
    split
    · exact .pure _
    · exact .unsupported _

theorem introduce_level (target : Target) : (introduce target).StaysLevel settings := by
  have asks : (askCatalog target.name).StaysLevel settings := by
    intro before
    simp only [askCatalog]
    split
    · exact ⟨rfl, fun _ => nofun⟩
    · exact ⟨rfl, fun _ => nofun⟩
  have entities : (targetEntity target).StaysLevel settings := by
    refine asks.bind fun answer => ?_
    split
    · exact .pure _
    · exact .pure _
    · exact .pure _
    · exact .fail rfl
    · exact .pure _
  have allocates : (allocateAlias target.name target.aliasName).StaysLevel settings := by
    intro before
    simp only [allocateAlias]
    split
    · exact ⟨rfl, fun _ => nofun⟩
    · split
      · refine ⟨rfl, ?_⟩
        rintro _ ⟨⟩
        rfl
      · exact ⟨rfl, fun _ => nofun⟩
    · exact ⟨rfl, fun _ => nofun⟩
    · exact ⟨rfl, fun _ => nofun⟩
  have binds (binding : BoundTarget) : (modify (·.bind binding)).StaysLevel settings :=
    fun _ => ⟨rfl, fun _ => nofun⟩
  exact entities.bind fun _ => allocates.bind fun _ => (binds _).bind fun _ => .pure _

end Primitive

/-! ## Descents -/

/-- With watchers that pass at the inquiries or without, a step at a depth runs alike; it comes
back to the depth and tells of the inquiries. -/
def Descends
    (watched step : Resolution first)
    (settings : Settings)
    (watchers : List Resolver)
    (depth : Nat)
    (inquiries : List Inquiry) : Prop :=
  depth ≤ settings.depthLimit →
    (∀ inquiry ∈ inquiries, inquiry.Passes ∧ inquiry.PassedBy settings watchers) →
      ∀ before : Context, before.depth = depth →
        watched settings before = step settings before ∧
          (step settings before).2.depth = depth ∧
          Inquiry.Told settings.depthLimit inquiries (step settings before).1

namespace Descends

variable
  {settings : Settings}
  {watchers : List Resolver}
  {depth : Nat}
  {inquiries inquiries' : List Inquiry}

/-- A step that asks nothing may leave out inquiries at its own depth. -/
theorem ofUnasked
    {step : Resolution first}
    (level : step.StaysLevel settings)
    (here : ∀ inquiry ∈ inquiries, inquiry.depth = depth) :
    Descends step step settings watchers depth inquiries := by
  intro inLimit _ before atDepth
  obtain ⟨depth_eq, elsewhere⟩ := level before
  refine ⟨rfl, depth_eq.trans atDepth, ?_⟩
  cases outcome : (step settings before).1 with
  | ok result => exact .ofOk fun inquiry member => here inquiry member ▸ inLimit
  | error error => exact .ofError (elsewhere error outcome)

/-- A step that asks nothing descends nowhere. -/
theorem ofLevel {step : Resolution first} (level : step.StaysLevel settings) :
    Descends step step settings watchers depth [] :=
  ofUnasked level (List.forall_mem_nil _)

theorem pure (result : first) :
    Descends (Pure.pure result) (Pure.pure result) settings watchers depth [] :=
  ofLevel (.pure result)

theorem fail {error : ResolutionError} (elsewhere : error.isOfDescent = false) :
    Descends (Resolution.fail error : Resolution first) (Resolution.fail error) settings watchers
      depth inquiries :=
  fun _ _ _ atDepth => ⟨rfl, atDepth, .ofError elsewhere⟩

/-- Two steps descend through the inquiries of both. -/
theorem bind
    {watched step : Resolution first}
    {watchedNext next : first → Resolution second}
    (steps : Descends watched step settings watchers depth inquiries)
    (nexts : ∀ result,
      Descends (watchedNext result) (next result) settings watchers depth inquiries') :
    Descends (watched >>= watchedNext) (step >>= next) settings watchers depth
      (inquiries ++ inquiries') := by
  intro inLimit admitted before atDepth
  rw [List.forall_mem_append] at admitted
  obtain ⟨same, depth_eq, told⟩ := steps inLimit admitted.1 before atDepth
  rw [bind_apply, bind_apply, same]
  cases ran : step settings before with
  | mk outcome between =>
      rw [ran] at depth_eq told
      cases outcome with
      | ok result =>
          obtain ⟨same', depth_eq', told'⟩ := nexts result inLimit admitted.2 between depth_eq
          refine ⟨same', depth_eq', ?_⟩
          cases outcome : (next result settings between).1 with
          | ok result' =>
              exact .ofOk (List.forall_mem_append.mpr
                ⟨told.within result rfl, told'.within result' outcome⟩)
          | error error =>
              rw [outcome] at told'
              exact told'.widen (List.subset_append_right _ _)
      | error error => exact ⟨rfl, depth_eq, told.widen (List.subset_append_left _ _)⟩

/-- A step that asks nothing, and another. -/
theorem afterLevel
    {step : Resolution first}
    {watchedNext next : first → Resolution second}
    (level : step.StaysLevel settings)
    (nexts : ∀ result,
      Descends (watchedNext result) (next result) settings watchers depth inquiries) :
    Descends (step >>= watchedNext) (step >>= next) settings watchers depth inquiries :=
  (ofLevel level).bind nexts

/-- A step, and another that asks nothing. -/
theorem thenLevel
    {watched step : Resolution first}
    {next : first → Resolution second}
    (steps : Descends watched step settings watchers depth inquiries)
    (levels : ∀ result, (next result).StaysLevel settings) :
    Descends (watched >>= next) (step >>= next) settings watchers depth inquiries := by
  rw [← List.append_nil inquiries]
  exact steps.bind fun result => ofLevel (levels result)

/-- A written text is given as an answer. -/
theorem answer
    {watched step : Resolution String}
    (steps : Descends watched step settings watchers depth inquiries) :
    Descends
      (do let text ← watched; return Resolved.fragment text)
      (do let text ← step; return Resolved.fragment text) settings watchers depth inquiries :=
  steps.thenLevel fun _ => .pure _

theorem withHint
    {watched step : Resolution first}
    (steps : Descends watched step settings watchers depth inquiries)
    (hint : ValueType) :
    Descends (Resolution.withHint hint watched) (Resolution.withHint hint step) settings watchers
      depth inquiries := by
  intro inLimit admitted before atDepth
  obtain ⟨same, depth_eq, told⟩ :=
    steps inLimit admitted { before with hint := some hint } atDepth
  simp only [Resolution.withHint, same]
  exact ⟨trivial, depth_eq, told⟩

/-- A sub-query descends one level further if the limit admits it; one that it does not admit
has inquiries beyond the limit. -/
theorem inChild
    {watched step : Resolution first}
    (steps : Descends watched step settings watchers (depth + 1) inquiries)
    (asks : ∃ inquiry ∈ inquiries, inquiry.depth = depth + 1)
    (aliasMode : AliasPolicy) :
    Descends (Resolution.inChild aliasMode watched) (Resolution.inChild aliasMode step) settings
      watchers depth inquiries := by
  intro inLimit admitted before atDepth
  simp only [Resolution.inChild, atDepth]
  split
  · next closed =>
      refine ⟨rfl, atDepth, ?_⟩
      obtain ⟨inquiry, member, deeper⟩ := asks
      refine ⟨fun _ => nofun, fun _ => nofun, ?_⟩
      rintro _ _ ⟨⟩
      exact ⟨by omega, rfl, inquiry, member, deeper ▸ closed⟩
  · next fits =>
      have entered : (before.enter aliasMode).depth = depth + 1 := by
        simp [Context.enter, Context.depth, ← atDepth]
      obtain ⟨same, -, told⟩ := steps (by omega) admitted (before.enter aliasMode) entered
      rw [same]
      exact ⟨rfl, atDepth, told⟩

end Descends
end Resolution

/-! ## The registry -/

namespace Resolvers

open Resolution

variable
  {settings : Settings}
  {watchers : List Resolver}
  {depth : Nat}
  {inquiries : List Inquiry}
  {expression : Expression}

/-- Answers that pass and leave the context as it is are passed over. -/
theorem firstAcceptable_of_pass
    {kind : ExpressionKind}
    {output : OutputKind}
    {attempts : List (Resolution (Option Resolved))}
    {before : Context}
    (pass : ∀ attempt ∈ attempts, attempt settings before = (.ok none, before))
    (others : List (Resolution (Option Resolved))) :
    firstAcceptable kind output (attempts ++ others) settings before =
      firstAcceptable kind output others settings before := by
  induction attempts with
  | nil => rfl
  | cons attempt rest inductionHypothesis =>
      rw [List.forall_mem_cons] at pass
      have forgotten : before.parameters.truncate before.parameters.size = before.parameters := by
        simp [ParameterTable.truncate, ParameterTable.size]
      rw [List.cons_append, firstAcceptable_cons_of_missed pass.1 (by simp), forgotten]
      exact inductionHypothesis pass.2

variable
  {watchedOwn own : Resolution Resolved}
  (owns : expression.validate = .ok () →
    Descends watchedOwn own settings watchers depth inquiries)

include owns

/-- A node is asked about where it stands, and its own answer descends through its parts. -/
theorem dispatch_descends (output : OutputKind) :
    Descends
      ((watched watchers).dispatch expression output watchedOwn)
      (standard.dispatch expression output own) settings watchers depth
      (⟨depth, expression⟩ :: inquiries) := by
  intro inLimit admitted before atDepth
  rw [List.forall_mem_cons] at admitted
  obtain ⟨⟨valid, passed⟩, admitted⟩ := admitted
  replace valid : expression.validate = .ok () := valid
  have pass : ∀ attempt ∈ answersOf watchers expression output,
      attempt settings before = (.ok none, before) := by
    intro attempt member
    simp only [answersOf, List.mem_map, List.mem_filter, decide_eq_true_eq] at member
    obtain ⟨watcher, ⟨listed, kind, -⟩, rfl⟩ := member
    exact passed inLimit watcher listed kind before atDepth
  have candidates : (watched watchers).candidates expression output watchedOwn =
      answersOf watchers expression output ++
        standard.candidates expression output watchedOwn := by
    simp [watched, standard, Resolvers.candidates, answersOf]
  have answers : Descends
      (firstAcceptable expression.kind output (standard.candidates expression output watchedOwn))
      (firstAcceptable expression.kind output (standard.candidates expression output own))
      settings watchers depth inquiries := by
    rw [standard_candidates, standard_candidates]
    split
    · refine .afterLevel parameterCount_level fun bound => ?_
      refine ((owns valid).thenLevel fun resolved => .pure _).thenLevel fun found => ?_
      have fails : (do
          forgetParameters bound
          firstAcceptable expression.kind output [] : Resolution Resolved).StaysLevel settings :=
        (forgetParameters_level bound).bind fun _ => .fail rfl
      split
      · split
        · exact .pure _
        · exact fails
      · exact fails
    · exact .fail rfl
  obtain ⟨same, depth_eq, told⟩ := answers inLimit admitted before atDepth
  have checked : (Resolution.ofChecked expression.validate : Resolution Unit) settings before =
      (.ok (), before) := by
    simp [Resolution.ofChecked, valid]
  simp only [dispatch, bind_apply, checked, candidates, firstAcceptable_of_pass pass]
  refine ⟨same, depth_eq, ?_⟩
  cases outcome : (firstAcceptable expression.kind output
      (standard.candidates expression output own) settings before).1 with
  | ok resolved =>
      exact .ofOk (List.forall_mem_cons.mpr ⟨inLimit, told.within resolved outcome⟩)
  | error error =>
      rw [outcome] at told
      exact told.widen (List.subset_cons_self _ _)

/-- The text of a node is that of its answer. -/
theorem fragment_descends :
    Descends
      ((watched watchers).fragment expression watchedOwn)
      (standard.fragment expression own) settings watchers depth
      (⟨depth, expression⟩ :: inquiries) := by
  refine (dispatch_descends owns .fragment).thenLevel fun resolved => ?_
  cases resolved with
  | fragment text => exact .pure _
  | emptyPredicate => exact .fail rfl
  | projection plan => exact .fail rfl

theorem predicate_descends :
    Descends
      ((watched watchers).predicate expression watchedOwn)
      (standard.predicate expression own) settings watchers depth
      (⟨depth, expression⟩ :: inquiries) := by
  have optional : Descends
      ((watched watchers).predicate? expression watchedOwn)
      (standard.predicate? expression own) settings watchers depth
      (⟨depth, expression⟩ :: inquiries) := by
    refine (dispatch_descends owns .fragment).thenLevel fun resolved => ?_
    cases resolved with
    | fragment text => exact .pure _
    | emptyPredicate => exact .pure _
    | projection plan => exact .fail rfl
  refine optional.thenLevel fun found => ?_
  cases found with
  | some text => exact .pure _
  | none => exact .fail rfl

theorem plan_descends :
    Descends
      ((watched watchers).plan expression watchedOwn)
      (standard.plan expression own) settings watchers depth
      (⟨depth, expression⟩ :: inquiries) := by
  refine (dispatch_descends owns .projection).thenLevel fun resolved => ?_
  cases resolved with
  | fragment text => exact .fail rfl
  | emptyPredicate => exact .fail rfl
  | projection plan => exact .pure _

end Resolvers

/-! ## Stages of a select -/

namespace SelectDraft

open Resolution

variable
  {settings : Settings}
  {watchers : List Resolver}
  {depth : Nat}
  {inquiries : List Inquiry}
  {watched step : Resolution String}

theorem advance_level (draft : SelectDraft) (next : Stage) :
    (Resolution.ofExcept (draft.advance next)).StaysLevel settings := by
  refine .ofExcept fun error failed => ?_
  unfold advance at failed
  split at failed
  · cases failed
    rfl
  · split at failed
    · cases failed
      rfl
    · cases failed

theorem withTarget_descends
    (steps : Descends watched step settings watchers depth inquiries)
    (draft : SelectDraft) :
    Descends (draft.withTarget watched) (draft.withTarget step) settings watchers depth inquiries :=
  .afterLevel (draft.advance_level .target) fun _ => steps.thenLevel fun _ => .pure _

theorem withFilter_descends
    (steps : Descends watched step settings watchers depth inquiries)
    (draft : SelectDraft) :
    Descends (draft.withFilter watched) (draft.withFilter step) settings watchers depth inquiries :=
  .afterLevel (draft.advance_level .filter) fun _ => steps.thenLevel fun _ => .pure _

theorem withAggregation_descends
    (steps : Descends watched step settings watchers depth inquiries)
    (draft : SelectDraft) :
    Descends (draft.withAggregation watched) (draft.withAggregation step) settings watchers depth
      inquiries :=
  .afterLevel (draft.advance_level .aggregation) fun _ => steps.thenLevel fun _ => .pure _

theorem withSort_descends
    (steps : Descends watched step settings watchers depth inquiries)
    (draft : SelectDraft) :
    Descends (draft.withSort watched) (draft.withSort step) settings watchers depth inquiries :=
  .afterLevel (draft.advance_level .sort) fun _ => steps.thenLevel fun _ => .pure _

theorem withProjection_descends
    {watched step : Resolution ProjectionPlan}
    (steps : Descends watched step settings watchers depth inquiries)
    (draft : SelectDraft) :
    Descends (draft.withProjection watched) (draft.withProjection step) settings watchers depth
      inquiries :=
  .afterLevel (draft.advance_level .projection) fun _ => steps.thenLevel fun _ => .pure _

theorem assemble_level (draft : SelectDraft) :
    (Resolution.ofExcept draft.assemble).StaysLevel settings := by
  refine .ofExcept fun error failed => ?_
  unfold assemble at failed
  split at failed
  · cases failed
    rfl
  · split at failed
    · cases failed
      rfl
    · split at failed
      · cases failed
        rfl
      · split at failed
        · cases failed
          rfl
        · cases failed

end SelectDraft
end ObjectQuery
