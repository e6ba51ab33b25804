import ObjectQuery.Proofs.Ensures
import ObjectQuery.Proofs.Sketch.Parameters

/-!
# What a run does to the context

A run leaves the scopes around it alone and adds to its own scope exactly the targets that
it binds there. Sub-queries take the next numbers in the order in which they are entered,
and the parameters are those of the sketch.

What only the targets, the aliases and the numbers of scopes have a part in is an invariant
of runs as soon as it is kept by binding a target, by entering a sub-query and by leaving it.
-/

namespace ObjectQuery

open Resolution

/-! ## Binding a target -/

/-- How a target comes by its alias, and the context after that. -/
inductive AliasChoice (context : Context) (name : String) :
    Option String → Option String → Context → Prop
  | unsupported
      {given : Option String}
      (mode : context.current.aliasMode = .unsupported) :
      AliasChoice context name given none context
  | given
      {aliasName : String}
      (mode : context.current.aliasMode ≠ .unsupported)
      (unused : aliasName ∉ context.aliases) :
      AliasChoice context name (some aliasName) (some aliasName) (context.useAlias aliasName)
  | default (mode : context.current.aliasMode = .default) :
      AliasChoice context name none none context
  | auto (mode : context.current.aliasMode = .auto) :
      AliasChoice context name none
        (some (generatedAlias (aliasStem name) context.current.sequence
          (context.freshCount (aliasStem name))))
        ((context.countAlias (aliasStem name) (context.freshCount (aliasStem name) + 1)).useAlias
          (generatedAlias (aliasStem name) context.current.sequence
            (context.freshCount (aliasStem name))))

namespace AliasChoice

variable
  {context chosen : Context}
  {name : String}
  {given aliasName : Option String}
  (choice : AliasChoice context name given aliasName chosen)

include choice

theorem parameters : chosen.parameters = context.parameters := by
  cases choice <;> rfl

theorem hint : chosen.hint = context.hint := by
  cases choice <;> rfl

theorem enclosing : chosen.enclosing = context.enclosing := by
  cases choice <;> rfl

theorem nextSequence : chosen.nextSequence = context.nextSequence := by
  cases choice <;> rfl

theorem sequence : chosen.current.sequence = context.current.sequence := by
  cases choice <;> rfl

theorem aliasMode : chosen.current.aliasMode = context.current.aliasMode := by
  cases choice <;> rfl

theorem bindings : chosen.current.bindings = context.current.bindings := by
  cases choice <;> rfl

end AliasChoice

namespace Resolution

variable {settings : Settings} {before : Context}

theorem allocateAlias_choices (name : String) (given : Option String) :
    (allocateAlias name given).Ensures settings before (AliasChoice before name given) := by
  intro chosen after run
  simp only [allocateAlias] at run
  split at run
  · next mode =>
      obtain ⟨rfl, rfl⟩ : none = chosen ∧ before = after := by simpa using run
      exact .unsupported mode
  · next aliasName mode =>
      split at run
      · simp at run
      · next unused =>
          obtain ⟨rfl, rfl⟩ := by simpa using run
          exact .given mode (by simpa using unused)
  · next mode =>
      obtain ⟨rfl, rfl⟩ : none = chosen ∧ before = after := by simpa using run
      exact .default mode
  · next mode =>
      obtain ⟨rfl, rfl⟩ := by simpa using run
      exact .auto mode

/-- Asking for the entity of a target changes nothing but the catalog. -/
theorem targetEntity_asks (target : Target) :
    (targetEntity target).Ensures settings before fun _ after =>
      ∃ catalog, after = { before with catalog } := by
  have asks : (askCatalog target.name).Ensures settings before fun _ after =>
      ∃ catalog, after = { before with catalog } := by
    intro answer after run
    simp only [askCatalog] at run
    split at run
    · obtain ⟨-, rfl⟩ : none = answer ∧ before = after := by simpa using run
      exact ⟨before.catalog, rfl⟩
    · obtain ⟨-, rfl⟩ := by simpa using run
      exact ⟨_, rfl⟩
  refine asks.bind fun answer after asked => ?_
  split
  · exact .pure asked
  · exact .pure asked
  · exact .pure asked
  · exact .fail _
  · exact .pure asked

theorem introduce_choices (target : Target) :
    (introduce target).Ensures settings before fun binding after =>
      ∃ catalog chosen,
        AliasChoice { before with catalog } target.name target.aliasName binding.aliasName chosen ∧
          binding.name = target.name ∧ after = chosen.bind binding := by
  refine (targetEntity_asks target).bind ?_
  rintro known _ ⟨catalog, rfl⟩
  refine (allocateAlias_choices target.name target.aliasName).bind fun aliasName chosen choice => ?_
  rintro binding after ⟨rfl, rfl⟩
  exact ⟨catalog, chosen, choice, rfl, rfl⟩

end Resolution

/-! ## Continuing a scope -/

/-- A context that goes on with the scope of another one and has bound some more targets. -/
structure Context.Continues (before after : Context) (bound : List Resident) : Prop where
  enclosing : after.enclosing = before.enclosing
  hint : after.hint = before.hint
  sequence : after.current.sequence = before.current.sequence
  aliasMode : after.current.aliasMode = before.current.aliasMode
  residents : after.current.residents = before.current.residents ++ bound

namespace Context.Continues

variable {before between after : Context} {bound bound' : List Resident}

theorem refl (context : Context) : context.Continues context [] :=
  ⟨rfl, rfl, rfl, rfl, (List.append_nil _).symm⟩

theorem trans
    (first : before.Continues between bound)
    (second : between.Continues after bound') :
    before.Continues after (bound ++ bound') where
  enclosing := second.enclosing.trans first.enclosing
  hint := second.hint.trans first.hint
  sequence := second.sequence.trans first.sequence
  aliasMode := second.aliasMode.trans first.aliasMode
  residents := by rw [second.residents, first.residents, List.append_assoc]

theorem declare
    {name : String}
    {given : Option String}
    {binding : BoundTarget}
    (choice : AliasChoice before name given binding.aliasName between) :
    before.Continues (between.bind binding) [⟨before.current.sequence, binding⟩] where
  enclosing := choice.enclosing
  hint := choice.hint
  sequence := choice.sequence
  aliasMode := choice.aliasMode
  residents := by simp [Scope.residents, bind, choice.bindings, choice.sequence]

/-- What is seen after a run was seen before it, or was bound by it in its own scope. -/
theorem mem_residents (continues : before.Continues after bound) (resident : Resident) :
    resident ∈ after.residents ↔ resident ∈ before.residents ∨ resident ∈ bound := by
  rw [Context.residents, Context.residents, List.flatMap_cons, List.flatMap_cons,
    continues.enclosing, continues.residents]
  simp only [List.mem_append]
  exact or_right_comm

end Context.Continues

/-- The scopes that were opened between two contexts have the numbers that were next. -/
structure Context.Opens (before after : Context) (numbers : List Nat) : Prop where
  consecutive : numbers = List.range' before.nextSequence numbers.length
  nextSequence : after.nextSequence = before.nextSequence + numbers.length

namespace Context.Opens

variable {before between after : Context} {numbers numbers' : List Nat}

theorem none (same : after.nextSequence = before.nextSequence) : before.Opens after [] :=
  ⟨rfl, same⟩

theorem trans
    (first : before.Opens between numbers)
    (second : between.Opens after numbers') :
    before.Opens after (numbers ++ numbers') where
  consecutive := by
    have later := second.consecutive
    rw [first.nextSequence] at later
    rw [List.length_append, ← List.range'_append_1, ← first.consecutive, ← later]
  nextSequence := by
    rw [second.nextSequence, first.nextSequence, List.length_append, Nat.add_assoc]

theorem nested
    {aliasMode : AliasPolicy}
    (inner : (before.enter aliasMode).Opens after numbers) :
    before.Opens (after.leave before) (before.nextSequence :: numbers) where
  consecutive := by
    have later := inner.consecutive
    rw [List.length_cons, List.range'_succ]
    exact congrArg _ later
  nextSequence := by
    have next := inner.nextSequence
    simp only [enter] at next
    rw [leave, next, List.length_cons, Nat.add_assoc, Nat.add_comm 1]

end Context.Opens

namespace Rendering

variable {settings : Settings} {sketch : Sketch} {before after : Context}

theorem continues (rendering : Rendering settings sketch before after) :
    before.Continues after rendering.bound := by
  induction rendering with
  | filling text written =>
      cases Filling.write_allocates _ _ _ written
      exact ⟨rfl, rfl, rfl, rfl, (List.append_nil _).symm⟩
  | mention found before => exact .refl before
  | declaration binding valid introduced =>
      obtain ⟨catalog, chosen, choice, -, rfl⟩ := introduce_choices _ _ _ introduced
      exact { Context.Continues.declare choice with }
  | append _ _ firstHypothesis secondHypothesis => exact firstHypothesis.trans secondHypothesis
  | expecting _ inductionHypothesis =>
      exact { inductionHypothesis with hint := rfl }
  | call _ inductionHypothesis => exact inductionHypothesis
  | select _ _ _ sourceHypothesis clausesHypothesis selectedHypothesis =>
      exact sourceHypothesis.trans (clausesHypothesis.trans selectedHypothesis)
  | nested _ inductionHypothesis =>
      exact ⟨rfl, inductionHypothesis.hint, rfl, rfl, (List.append_nil _).symm⟩

/-- A run allocates the parameters of its sketch and no others. -/
theorem parameters_eq (rendering : Rendering settings sketch before after) :
    after.parameters = before.parameters.extend settings.dialect
      (sketch.parameters settings.dialect before.hint) := by
  induction rendering with
  | filling text written =>
      cases Filling.write_allocates _ _ _ written
      rfl
  | mention found before => rfl
  | declaration binding valid introduced =>
      obtain ⟨catalog, chosen, choice, -, rfl⟩ := introduce_choices _ _ _ introduced
      exact choice.parameters
  | append firstPart _ firstHypothesis secondHypothesis =>
      rw [secondHypothesis, firstHypothesis, firstPart.continues.hint, Sketch.parameters,
        ParameterTable.extend_append]
  | expecting _ inductionHypothesis => exact inductionHypothesis
  | call _ inductionHypothesis => exact inductionHypothesis
  | select sourcePart clausesPart _ sourceHypothesis clausesHypothesis selectedHypothesis =>
      rw [selectedHypothesis, clausesHypothesis, sourceHypothesis, clausesPart.continues.hint,
        sourcePart.continues.hint, Sketch.parameters, ParameterTable.extend_append,
        ParameterTable.extend_append]
  | nested _ inductionHypothesis => exact inductionHypothesis

/-! ## Numbers of scopes -/

/-- The numbers of the sub-queries that a run enters, in the order in which it enters them. -/
def numbers : {sketch : Sketch} → {before after : Context} →
    Rendering settings sketch before after → List Nat
  | _, _, _, .filling _ _ | _, _, _, .mention _ _ | _, _, _, .declaration _ _ _ => []
  | _, _, _, .append firstPart secondPart => firstPart.numbers ++ secondPart.numbers
  | _, _, _, .expecting innerPart => innerPart.numbers
  | _, _, _, .call argumentPart => argumentPart.numbers
  | _, _, _, .select sourcePart clausesPart selectedPart =>
      sourcePart.numbers ++ (clausesPart.numbers ++ selectedPart.numbers)
  | _, before, _, .nested queryPart => before.nextSequence :: queryPart.numbers

/-- Whatever a run binds has the number of the scope in which it is bound. -/
def Placed : {sketch : Sketch} → {before after : Context} →
    Rendering settings sketch before after → Nat → Prop
  | _, _, _, .filling _ _, _ | _, _, _, .mention _ _, _ => True
  | _, _, _, part@(.declaration _ _ _), scope =>
      ∀ resident ∈ part.residents, resident.scope = scope
  | _, _, _, .append firstPart secondPart, scope =>
      firstPart.Placed scope ∧ secondPart.Placed scope
  | _, _, _, .expecting innerPart, scope => innerPart.Placed scope
  | _, _, _, .call argumentPart, scope => argumentPart.Placed scope
  | _, _, _, .select sourcePart clausesPart selectedPart, scope =>
      sourcePart.Placed scope ∧ clausesPart.Placed scope ∧ selectedPart.Placed scope
  | _, before, _, .nested queryPart, _ => queryPart.Placed before.nextSequence

/-- Sub-queries take the next numbers in the order in which they are entered. -/
theorem opens (rendering : Rendering settings sketch before after) :
    before.Opens after rendering.numbers := by
  induction rendering with
  | filling text written =>
      cases Filling.write_allocates _ _ _ written
      exact .none rfl
  | mention found before => exact .none rfl
  | declaration binding valid introduced =>
      obtain ⟨catalog, chosen, choice, -, rfl⟩ := introduce_choices _ _ _ introduced
      exact .none choice.nextSequence
  | append _ _ firstHypothesis secondHypothesis => exact firstHypothesis.trans secondHypothesis
  | expecting _ inductionHypothesis => exact ⟨inductionHypothesis.1, inductionHypothesis.2⟩
  | call _ inductionHypothesis => exact inductionHypothesis
  | select _ _ _ sourceHypothesis clausesHypothesis selectedHypothesis =>
      exact sourceHypothesis.trans (clausesHypothesis.trans selectedHypothesis)
  | nested _ inductionHypothesis => exact inductionHypothesis.nested

theorem placed (rendering : Rendering settings sketch before after) :
    rendering.Placed before.current.sequence := by
  induction rendering with
  | filling | mention => trivial
  | declaration binding valid introduced => simp [Placed, residents]
  | append firstPart _ firstHypothesis secondHypothesis =>
      refine ⟨firstHypothesis, ?_⟩
      rw [← firstPart.continues.sequence]
      exact secondHypothesis
  | expecting _ inductionHypothesis => exact inductionHypothesis
  | call _ inductionHypothesis => exact inductionHypothesis
  | select sourcePart clausesPart _ sourceHypothesis clausesHypothesis selectedHypothesis =>
      refine ⟨sourceHypothesis, ?_, ?_⟩
      · rw [← sourcePart.continues.sequence]
        exact clausesHypothesis
      · rw [← sourcePart.continues.sequence, ← clausesPart.continues.sequence]
        exact selectedHypothesis
  | nested _ inductionHypothesis => exact inductionHypothesis

end Rendering

/-! ## Invariants of runs -/

/-- The targets that a sketch declares, in order. -/
def Sketch.targets : Sketch → List Target
  | .filling _ | .mention _ => []
  | .declaration target => [target]
  | .append first second => first.targets ++ second.targets
  | .expecting _ inner => inner.targets
  | .call _ _ argument => argument.targets
  | .select _ source clauses selected =>
      source.targets ++ (clauses.targets ++ selected.targets)
  | .nested query => query.targets

/--
Something that is said of the targets bound so far and of a context, and is kept by every
step of a run over permitted targets.
-/
structure RunInvariant
    (permits : Target → Prop)
    (holds : List Resident → Context → Prop) : Prop where
  /-- It speaks only of scopes, aliases and numbers. -/
  unseen :
    ∀ {past : List Resident} {before after : Context}, holds past before →
      after.current = before.current → after.enclosing = before.enclosing →
      after.aliases = before.aliases → after.nextSequence = before.nextSequence →
      holds past after
  declare :
    ∀ {past : List Resident} {before chosen : Context} {target : Target} {binding : BoundTarget},
      holds past before → permits target →
      Validation.targetNames target.name target.aliasName = .ok () →
      AliasChoice before target.name target.aliasName binding.aliasName chosen →
      binding.name = target.name →
      holds (past ++ [⟨before.current.sequence, binding⟩]) (chosen.bind binding)
  enter :
    ∀ {past : List Resident} {before : Context}, holds past before →
      holds past (before.enter (BuiltIn.childMode before.current.aliasMode))
  leave :
    ∀ {past : List Resident} {before after : Context}, holds past after →
      after.enclosing = before.current :: before.enclosing → holds past (after.leave before)

namespace RunInvariant

variable
  {permits : Target → Prop}
  {holds : List Resident → Context → Prop}
  {settings : Settings}
  {sketch : Sketch}
  {before after : Context}

/-- What every step keeps, a whole run keeps. -/
theorem preserved
    (invariant : RunInvariant permits holds)
    (rendering : Rendering settings sketch before after)
    {past : List Resident}
    (permitted : ∀ target ∈ sketch.targets, permits target)
    (start : holds past before) :
    holds (past ++ rendering.residents) after := by
  induction rendering generalizing past with
  | filling text written =>
      cases Filling.write_allocates _ _ _ written
      rw [Rendering.residents, List.append_nil]
      exact invariant.unseen start rfl rfl rfl rfl
  | mention found before => simpa only [Rendering.residents, List.append_nil] using start
  | @declaration target before after binding valid introduced =>
      obtain ⟨catalog, chosen, choice, named, rfl⟩ := introduce_choices _ _ _ introduced
      have asked : holds past { before with catalog } := invariant.unseen start rfl rfl rfl rfl
      have declared :=
        invariant.declare asked (permitted _ List.mem_cons_self) valid choice named
      exact declared
  | append _ _ firstHypothesis secondHypothesis =>
      simp only [Sketch.targets, List.forall_mem_append] at permitted
      rw [Rendering.residents, ← List.append_assoc]
      exact secondHypothesis permitted.2 (firstHypothesis permitted.1 start)
  | expecting _ inductionHypothesis =>
      have expected := inductionHypothesis permitted (invariant.unseen start rfl rfl rfl rfl)
      exact invariant.unseen expected rfl rfl rfl rfl
  | call _ inductionHypothesis => exact inductionHypothesis permitted start
  | select _ _ _ sourceHypothesis clausesHypothesis selectedHypothesis =>
      simp only [Sketch.targets, List.forall_mem_append] at permitted
      rw [Rendering.residents, ← List.append_assoc, ← List.append_assoc]
      exact selectedHypothesis permitted.2.2
        (clausesHypothesis permitted.2.1 (sourceHypothesis permitted.1 start))
  | nested queryPart inductionHypothesis =>
      exact invariant.leave (inductionHypothesis permitted (invariant.enter start))
        queryPart.continues.enclosing

end RunInvariant
end ObjectQuery
