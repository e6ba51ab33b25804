import ObjectQuery.Proofs.Aliases.Generated
import ObjectQuery.Proofs.Frame.Steps
import ObjectQuery.Proofs.Hereditary.Nodes

/-!
# What a resolver leaves behind when it is passed over

The registry goes on to the next resolver when one has passed, or has answered with something
that was not asked for. The parameters that it bound are released then, and nothing else is:
targets that it bound stay bound, aliases that it used stay used, and the counters stay where it
left them. What was there before it was asked is still there, as it was, since no step that a
resolver can take undoes anything.
-/

namespace ObjectQuery

/-! ## Steps that undo nothing -/

/-- A scope with the targets of another, in their order, and perhaps more of them. -/
structure Scope.GrowsTo (before after : Scope) : Prop where
  sequence : after.sequence = before.sequence
  aliasMode : after.aliasMode = before.aliasMode
  bindings : before.bindings <+: after.bindings
  counts : ∀ base, before.aliasCount base ≤ after.aliasCount base

/-- A context in which nothing of another is undone: the scopes around the one in hand and the
hint are as before, and what the rest held is still there. -/
structure Context.GrowsTo (before after : Context) : Prop where
  keeps : before.Keeps .around after
  current : before.current.GrowsTo after.current
  nextSequence : before.nextSequence ≤ after.nextSequence

theorem Scope.GrowsTo.refl (scope : Scope) : scope.GrowsTo scope :=
  ⟨rfl, rfl, List.prefix_rfl, fun _ => Nat.le_refl _⟩

theorem Scope.GrowsTo.trans
    {before between after : Scope}
    (first : before.GrowsTo between)
    (second : between.GrowsTo after) :
    before.GrowsTo after where
  sequence := second.sequence.trans first.sequence
  aliasMode := second.aliasMode.trans first.aliasMode
  bindings := first.bindings.trans second.bindings
  counts base := Nat.le_trans (first.counts base) (second.counts base)

namespace Context.GrowsTo

variable {before between after : Context}

theorem refl (context : Context) : context.GrowsTo context :=
  ⟨.refl _ _, .refl _, Nat.le_refl _⟩

theorem trans (first : before.GrowsTo between) (second : between.GrowsTo after) :
    before.GrowsTo after where
  keeps := first.keeps.trans second.keeps
  current := first.current.trans second.current
  nextSequence := Nat.le_trans first.nextSequence second.nextSequence

theorem forget (grows : before.GrowsTo after) :
    before.GrowsTo
      { after with parameters := after.parameters.truncate before.parameters.size } :=
  { grows with keeps := grows.keeps.forget }

/-- What is kept of the parameters after the first ones were all bound later. -/
theorem truncate_parameters (grows : before.GrowsTo after) :
    after.parameters.truncate before.parameters.size = before.parameters := by
  obtain ⟨added, entries⟩ := grows.keeps.parameters
  simp [ParameterTable.truncate, ParameterTable.size, ← entries]

end Context.GrowsTo

/-- The counter of a base only moves on when an alias is made up from it. -/
theorem Context.countAlias_growsTo (context : Context) (base : String) :
    context.current.GrowsTo
      (context.countAlias base (context.freshCount base + 1)).current where
  sequence := rfl
  aliasMode := rfl
  bindings := List.prefix_rfl
  counts := by
    intro counted
    by_cases same : base = counted
    · subst same
      simpa [countAlias, Scope.aliasCount, Table.find?_put_self] using
        Nat.le_succ_of_le (context.isFresh_freshCount base).counted
    · simp [countAlias, Scope.aliasCount, Table.find?_put_of_ne same]

namespace Resolution

variable {first second : Type} {settings : Settings}

/-- Whatever comes of the step, it undoes nothing. -/
def Grows (step : Resolution first) (settings : Settings) : Prop :=
  ∀ before : Context, before.GrowsTo (step settings before).2

theorem Grows.unchanged
    {step : Resolution first}
    (same : ∀ before, (step settings before).2 = before) :
    step.Grows settings := by
  intro before
  rw [same before]
  exact .refl before

theorem allocateAlias_grows (name : String) (given : Option String) :
    (allocateAlias name given).Grows settings := by
  intro before
  have keeps : before.Keeps .around (allocateAlias name given settings before).2 :=
    allocateAlias_keeps name given before
  revert keeps
  simp only [allocateAlias]
  split
  · exact fun _ => .refl _
  · split
    · exact fun _ => .refl _
    · exact fun keeps => ⟨keeps, .refl _, Nat.le_refl _⟩
  · exact fun _ => .refl _
  · exact fun keeps => ⟨keeps, before.countAlias_growsTo _, Nat.le_refl _⟩

theorem askCatalog_grows (name : String) : (askCatalog name).Grows settings := by
  intro before
  simp only [askCatalog]
  split <;> exact ⟨⟨rfl, rfl, List.prefix_rfl, List.prefix_rfl⟩, .refl _, Nat.le_refl _⟩

/-- A scope of its own takes up what a step binds, and its number is spent. -/
theorem Grows.inChild
    {step : Resolution first}
    (steps : step.Grows settings)
    (aliasMode : AliasPolicy) :
    (Resolution.inChild aliasMode step).Grows settings := by
  intro before
  have grown := steps (before.enter aliasMode)
  simp only [Resolution.inChild]
  split
  · exact .refl before
  · exact ⟨⟨rfl, grown.keeps.hint, grown.keeps.parameters, grown.keeps.aliases⟩, .refl _,
      Nat.le_trans (Nat.le_succ _) grown.nextSequence⟩

theorem Grows.withHint
    {step : Resolution first}
    (steps : step.Grows settings)
    (hint : ValueType) :
    (Resolution.withHint hint step).Grows settings := by
  intro before
  have grown := steps { before with hint := some hint }
  exact ⟨⟨grown.keeps.scopes, rfl, grown.keeps.parameters, grown.keeps.aliases⟩, grown.current,
    grown.nextSequence⟩

/-- Whatever is put together from steps that undo nothing undoes nothing. -/
theorem hereditary_grows : Hereditary (fun step => step.Grows settings) where
  pure _ := .unchanged fun _ => rfl
  fail _ := .unchanged fun _ => rfl
  bind := bind_relates .trans
  dialect := .unchanged fun _ => rfl
  reading nexts _ := bind_relates .trans (fun before => .refl before) nexts
  binding _ _ :=
    ⟨⟨rfl, rfl, List.prefix_rfl, List.prefix_rfl⟩,
      ⟨rfl, rfl, List.prefix_append _ _, fun _ => Nat.le_refl _⟩, Nat.le_refl _⟩
  inChild aliasMode steps := steps.inChild aliasMode
  withHint hint steps := steps.withHint hint
  allocateAlias := allocateAlias_grows
  askCatalog := askCatalog_grows
  newParameter _ _ _ :=
    ⟨⟨rfl, rfl, List.prefix_append _ _, List.prefix_rfl⟩, .refl _, Nat.le_refl _⟩
  choosing kind output _ each :=
    Resolvers.firstAcceptable_relates .refl .trans .forget kind output each

/-- A step that is put together from what a context offers to resolvers: it has every hereditary
property. -/
def Composed (step : Resolution first) : Prop :=
  ∀ holds : {result : Type} → Resolution result → Prop, Hereditary holds → holds step

theorem hereditary_composed : Hereditary Composed where
  pure found _ hereditary := hereditary.pure found
  fail error _ hereditary := hereditary.fail error
  bind steps nexts _ hereditary :=
    hereditary.bind (steps _ hereditary) fun found => nexts found _ hereditary
  dialect _ hereditary := hereditary.dialect
  reading nexts overlooks _ hereditary :=
    hereditary.reading (fun context => nexts context _ hereditary) overlooks
  binding found _ hereditary := hereditary.binding found
  inChild aliasMode steps _ hereditary := hereditary.inChild aliasMode (steps _ hereditary)
  withHint hint steps _ hereditary := hereditary.withHint hint (steps _ hereditary)
  allocateAlias name given _ hereditary := hereditary.allocateAlias name given
  askCatalog name _ hereditary := hereditary.askCatalog name
  newParameter value valueType _ hereditary := hereditary.newParameter value valueType
  choosing kind output _ each _ hereditary :=
    hereditary.choosing kind output fun attempt member => each attempt member _ hereditary

theorem Composed.grows {step : Resolution first} (composed : step.Composed) :
    step.Grows settings :=
  composed _ hereditary_grows

end Resolution

/-! ## The registry -/

namespace Resolvers

open Resolution

variable
  {registry : Resolvers}
  {settings : Settings}
  {output : OutputKind}
  {attempt : Resolution (Option Resolved)}
  {passed others : List (Resolution (Option Resolved))}
  {found : Option Resolved}
  {start before between after : Context}

/-- The attempts pass one after the other, or their answers miss; each starts where the one before
it ended, less the parameters that this one bound. -/
inductive PassesOver (settings : Settings) (output : OutputKind) :
    List (Resolution (Option Resolved)) → Context → Context → Prop
  | nil (context : Context) : PassesOver settings output [] context context
  | cons
      {attempt : Resolution (Option Resolved)}
      {rest : List (Resolution (Option Resolved))}
      {found : Option Resolved}
      {before between after : Context}
      (ran : attempt settings before = (.ok found, between))
      (missed : ∀ resolved ∈ found, resolved.isAcceptable output = false)
      (goesOn : PassesOver settings output rest
        { between with parameters := between.parameters.truncate before.parameters.size } after) :
      PassesOver settings output (attempt :: rest) before after

/-- An outcome with which the choice among attempts ends: an error, or what was asked for. -/
def Settled (output : OutputKind) : Except ResolutionError (Option Resolved) → Prop
  | .error _ => True
  | .ok found => ∃ resolved ∈ found, resolved.isAcceptable output = true

/-- Every choice is made so: attempts are passed over until one settles it or none is left. -/
theorem exists_passesOver
    (settings : Settings)
    (output : OutputKind)
    (attempts : List (Resolution (Option Resolved)))
    (before : Context) :
    ∃ passed others after, attempts = passed ++ others ∧
      PassesOver settings output passed before after ∧
        ∀ attempt ∈ others.head?, Settled output (attempt settings after).1 := by
  induction attempts generalizing before with
  | nil => exact ⟨[], [], before, rfl, .nil before, by simp⟩
  | cons attempt rest inductionHypothesis =>
      by_cases settled : Settled output (attempt settings before).1
      · refine ⟨[], attempt :: rest, before, rfl, .nil before, ?_⟩
        rintro _ ⟨⟩
        exact settled
      · rcases ran : attempt settings before with ⟨error | found, between⟩ <;> rw [ran] at settled
        · exact absurd trivial settled
        · have missed : ∀ resolved ∈ found, resolved.isAcceptable output = false := by
            intro resolved member
            by_contra acceptable
            exact settled ⟨resolved, member, by simpa using acceptable⟩
          obtain ⟨passed, others, after, rfl, passes, ends⟩ := inductionHypothesis
            { between with parameters := between.parameters.truncate before.parameters.size }
          exact ⟨attempt :: passed, others, after, rfl, .cons ran missed passes, ends⟩

/-- Attempts that are passed over leave the choice to the others. -/
theorem firstAcceptable_of_passesOver
    (passes : PassesOver settings output passed before after)
    (kind : ExpressionKind) :
    firstAcceptable kind output (passed ++ others) settings before =
      firstAcceptable kind output others settings after := by
  induction passes with
  | nil context => rfl
  | cons ran missed goesOn inductionHypothesis =>
      rw [List.cons_append, firstAcceptable_cons_of_missed ran missed, inductionHypothesis]

/-- Of attempts that undo nothing and are passed over, what is left undoes nothing and has no
parameter. -/
theorem PassesOver.growsTo
    (passes : PassesOver settings output passed before after)
    (each : ∀ attempt ∈ passed, attempt.Grows settings) :
    before.GrowsTo after ∧ after.parameters = before.parameters := by
  induction passes with
  | nil context => exact ⟨.refl context, rfl⟩
  | @cons attempt rest found before between after ran missed goesOn inductionHypothesis =>
      rw [List.forall_mem_cons] at each
      have tried : before.GrowsTo between := by
        have grown := each.1 before
        rwa [ran] at grown
      obtain ⟨grown, parameters⟩ := inductionHypothesis each.2
      exact ⟨tried.forget.trans grown, parameters.trans tried.truncate_parameters⟩

end Resolvers
end ObjectQuery
