import Mathlib.Data.List.Infix
import ObjectQuery.Proofs.Aliases.Visible
import ObjectQuery.Proofs.Frame.Statement
import ObjectQuery.Proofs.Sketch.Places

/-!
# Targets without an alias

A target without an alias is spoken of by bare property names, or by its entity. In every
scope of a run such a target is the first, since joined targets have aliases. A property is
read of it in its own scope only; the resolvers refuse to read one from further inside. A
selected entity is looked up like a correlation, though, and may lie in a scope around.
-/

namespace ObjectQuery

open Resolution

/-! ## Unaliased targets come first -/

namespace Scope

variable {scope earlier later : Scope}

theorem map_target_residents (scope : Scope) :
    scope.residents.map Resident.target = scope.bindings := by
  simp [residents, Function.comp_def]

theorem JoinsAliased.restrict
    (aliased : later.JoinsAliased)
    (start : earlier.bindings <+: later.bindings) :
    earlier.JoinsAliased := by
  rw [JoinsAliased, ← List.drop_one] at aliased ⊢
  exact fun binding member => aliased binding ((start.drop 1).subset member)

/-- Of the targets of a scope only the first can be without an alias. -/
theorem JoinsAliased.head?_residents
    (aliased : scope.JoinsAliased)
    {resident : Resident}
    (member : resident ∈ scope.residents)
    (unaliased : resident.target.aliasName = none) :
    scope.residents.head? = some resident := by
  obtain ⟨binding, among, rfl⟩ := List.mem_map.mp member
  cases listed : scope.bindings with
  | nil => simp [listed] at among
  | cons first rest =>
      rw [listed] at among
      rcases List.mem_cons.mp among with rfl | joined
      · simp [residents, listed]
      · have missing : binding.aliasName = none := unaliased
        simpa [missing] using aliased binding (by simpa [listed] using joined)

theorem find?_eq_none_iff {qualifier : String} :
    scope.find? qualifier = none ↔
      ∀ binding ∈ scope.bindings, binding.aliasName ≠ some qualifier ∧
        binding.name ≠ qualifier ∧ binding.entity ≠ qualifier := by
  simp [find?, imp_and, forall_and]

/-- What a target answers to does not depend on the scope that it is in. -/
theorem find?_ne_none_of_mem
    {other : Scope}
    {qualifier : String}
    {binding : BoundTarget}
    (found : other.find? qualifier = some binding)
    (member : binding ∈ scope.bindings) :
    scope.find? qualifier ≠ none := by
  intro missing
  obtain ⟨noAlias, noName, noEntity⟩ := find?_eq_none_iff.mp missing binding member
  rcases (answers_of_find? found).2 with byAlias | byName | byEntity
  · exact noAlias byAlias
  · exact noName byName
  · exact noEntity byEntity

end Scope

namespace Context

theorem Continues.bindings
    {before after : Context}
    {bound : List Resident}
    (continues : before.Continues after bound) :
    before.current.bindings <+: after.current.bindings := by
  rw [← Scope.map_target_residents, ← Scope.map_target_residents, continues.residents]
  exact (List.prefix_append _ _).map _

end Context

/-- In a guarded run every scope in sight of a place has aliases for its joined targets. -/
theorem Rendering.joinsAliased_of_mem_places
    {settings : Settings}
    {sketch : Sketch}
    {before after : Context}
    (rendering : Rendering settings sketch before after)
    (guarded : rendering.Guarded)
    (around : ∀ scope ∈ before.enclosing, scope.JoinsAliased)
    (inHand : after.current.JoinsAliased)
    {place : Place}
    (member : place ∈ rendering.places) :
    ∀ scope ∈ place.context.current :: place.context.enclosing, scope.JoinsAliased := by
  induction rendering with
  | filling | declaration => simp [places] at member
  | mention found before =>
      obtain rfl := List.mem_singleton.mp member
      exact List.forall_mem_cons.mpr ⟨inHand, around⟩
  | append firstPart secondPart firstHypothesis secondHypothesis =>
      rcases List.mem_append.mp member with inFirst | inSecond
      · exact firstHypothesis guarded.1 around (inHand.restrict secondPart.continues.bindings)
          inFirst
      · exact secondHypothesis guarded.2 (by rwa [firstPart.continues.enclosing]) inHand inSecond
  | expecting _ inductionHypothesis => exact inductionHypothesis guarded around inHand member
  | call _ inductionHypothesis => exact inductionHypothesis guarded around inHand member
  | select sourcePart clausesPart selectedPart sourceHypothesis clausesHypothesis
      selectedHypothesis =>
      rw [places, List.mem_append, List.mem_append] at member
      obtain ⟨sourceGuarded, clausesGuarded, selectedGuarded⟩ := guarded
      have restricted := inHand.restrict selectedPart.continues.bindings
      have sourced := restricted.restrict clausesPart.continues.bindings
      have aroundSourced := by simpa only [← sourcePart.continues.enclosing] using around
      have aroundRestricted := by
        simpa only [← clausesPart.continues.enclosing] using aroundSourced
      rcases member with inSource | inClauses | inSelected
      · exact sourceHypothesis sourceGuarded around sourced inSource
      · exact clausesHypothesis clausesGuarded aroundSourced restricted inClauses
      · exact selectedHypothesis selectedGuarded aroundRestricted inHand inSelected
  | nested _ inductionHypothesis =>
      exact inductionHypothesis guarded.1 (List.forall_mem_cons.mpr ⟨inHand, around⟩) guarded.2
        member

/-! ## Places that speak of unaliased targets -/

namespace Place

variable {place : Place} {owner : Resident}

/-- An entity is selected by a name that the scope in hand does not show. -/
def ReachesOut (place : Place) : Prop :=
  ∃ name, place.found = .entity (some name) ∧ place.context.current.find? name = none

theorem exists_scope_of_reachesOut
    (spoken : place.owner = some owner)
    (reaches : place.ReachesOut) :
    ∃ scope ∈ place.context.enclosing, owner ∈ scope.residents ∧
      owner.target ∉ place.context.current.bindings := by
  obtain ⟨name, isEntity, missing⟩ := reaches
  rw [Place.owner, isEntity] at spoken
  obtain ⟨scope, member, among, found⟩ := Context.exists_scope_of_residentIn spoken
  rcases List.mem_cons.mp member with rfl | around
  · simp [missing] at found
  · exact ⟨scope, around, among, fun own => Scope.find?_ne_none_of_mem found own missing⟩

/-- A place that is guarded speaks of an unaliased target in its own scope, unless it selects
an entity from further out. -/
theorem mem_residents_of_unaliased
    (guarded : place.found.GuardedIn place.context)
    (spoken : place.owner = some owner)
    (unaliased : owner.target.aliasName = none)
    (stays : ¬ place.ReachesOut) :
    owner ∈ place.context.current.residents := by
  obtain ⟨found, context⟩ := place
  rw [Place.owner, Rendering.owner] at spoken
  cases named : found.qualifier? with
  | none =>
      rw [named] at spoken
      obtain ⟨binding, root, rfl⟩ := Option.map_eq_some_iff.mp spoken
      exact List.mem_map_of_mem (List.mem_of_mem_head? root)
  | some qualifier =>
      rw [named] at spoken
      cases own : context.current.find? qualifier with
      | some binding =>
          obtain rfl : ⟨context.current.sequence, binding⟩ = owner := by
            simpa [Context.resident?, Context.residentIn, own] using spoken
          exact Scope.mem_residents_of_find? own
      | none =>
          have inChain : context.find? qualifier = some owner.target := by
            rw [← Context.map_resident?_some, spoken, Option.map_some]
          cases found with
          | property path =>
              obtain ⟨binding, sought, aliased⟩ := guarded qualifier named
              obtain rfl : owner.target = binding := Option.some.inj (inChain.symm.trans sought)
              simpa [unaliased] using aliased own
          | entity name => exact (stays ⟨qualifier, congrArg Mention.entity named, own⟩).elim
          | rows => simp [Mention.qualifier?] at named
          | attributes => simp [Mention.qualifier?] at named

/--
What a place says when it speaks of a target without an alias: the target is the first of its
scope, the others there have aliases, and its scope is that of the place unless the place
reaches out. So the target stands alone in the scope of the place exactly where the place
does not reach out and nothing is joined there.
-/
theorem unaliased_owner
    (guarded : place.found.GuardedIn place.context)
    (aliased : ∀ scope ∈ place.context.current :: place.context.enclosing, scope.JoinsAliased)
    (spoken : place.owner = some owner)
    (unaliased : owner.target.aliasName = none) :
    (∃ scope ∈ place.context.current :: place.context.enclosing,
        scope.residents.head? = some owner ∧
          scope.JoinsAliased ∧
          (scope = place.context.current ↔ ¬ place.ReachesOut)) ∧
      (place.context.current.residents = [owner] ↔
        ¬ place.ReachesOut ∧ place.context.current.bindings.tail = []) := by
  have aliasedHere := aliased _ List.mem_cons_self
  by_cases reaches : place.ReachesOut
  · obtain ⟨scope, around, member, foreign⟩ := exists_scope_of_reachesOut spoken reaches
    have inSight := List.mem_cons_of_mem place.context.current around
    refine ⟨⟨scope, inSight, (aliased scope inSight).head?_residents member unaliased,
      aliased scope inSight, iff_of_false ?_ (not_not_intro reaches)⟩, iff_of_false ?_ ?_⟩
    · rintro rfl
      rw [← Scope.map_target_residents] at foreign
      exact foreign (List.mem_map_of_mem member)
    · intro alone
      rw [← Scope.map_target_residents, alone] at foreign
      exact foreign List.mem_cons_self
    · exact fun both => both.1 reaches
  · have member := mem_residents_of_unaliased guarded spoken unaliased reaches
    have leads := aliasedHere.head?_residents member unaliased
    refine ⟨⟨_, List.mem_cons_self, leads, aliasedHere, iff_of_true rfl reaches⟩, ?_⟩
    rw [← Scope.map_target_residents]
    cases listed : place.context.current.residents with
    | nil => simp [listed] at member
    | cons first rest =>
        obtain rfl : first = owner := by simpa [listed] using leads
        simp [reaches]

end Place

namespace Compiler

variable {compiler : Compiler} {operation : Operation} {statement : Statement}

/-- Wherever a compiled statement speaks of a target without an alias, the target is the first
of the select, update or delete in which it is bound, and the only one there without an alias.
It is bound in the one that contains the place, and alone there, exactly where nothing is
joined and no entity of a scope around is selected by name. -/
theorem compile_unaliased_spoken
    (standard : compiler.registry = Resolvers.standard)
    (compiled : (compiler.compile operation).1 = .ok statement) :
    ∃ after,
      ∃ rendering : Rendering compiler.settings operation.sketch (compiler.context operation) after,
        rendering.text = statement.text ∧
          ∀ place ∈ rendering.places, ∀ owner, place.owner = some owner →
            owner.target.aliasName = none →
              (∃ scope ∈ place.context.current :: place.context.enclosing,
                  scope.residents.head? = some owner ∧
                    scope.JoinsAliased ∧
                    (scope = place.context.current ↔ ¬ place.ReachesOut)) ∧
                (place.context.current.residents = [owner] ↔
                  ¬ place.ReachesOut ∧ place.context.current.bindings.tail = []) := by
  obtain ⟨composed, after, run, rfl⟩ := exists_composed compiled
  rw [standard] at run
  obtain ⟨rendering, guarded, written⟩ := compose_writes operation composed after run
  have aliased := compose_joinsAliased operation rfl composed after run
  refine ⟨after, rendering, written, fun place member owner spoken unaliased => ?_⟩
  exact Place.unaliased_owner (rendering.guardedIn_of_mem_places guarded member)
    (rendering.joinsAliased_of_mem_places guarded (List.forall_mem_nil _) aliased member)
    spoken unaliased

/-- A deletion without an alias whose sub-query selects the deleted target: the sub-query has
bound another target, and selects that of the deletion from further out. -/
theorem deleted_order_spoken :
    let compiler : Compiler :=
      ⟨.standard .dataNucleus, (Configuration.standard .dataNucleus).dialect, .standard, none⟩
    let chosen := SubQuery.of (Target.named "setting") (.target (some "order"))
    let operation : Operation :=
      { Operation.of .delete (Target.named "order") with filter := some (.hasRows chosen) }
    ∃ statement after,
      (compiler.compile operation).1 = .ok statement ∧
        statement.text = "DELETE FROM order WHERE EXISTS (SELECT order FROM setting sett_1_0)" ∧
        ∃ rendering :
          Rendering compiler.settings operation.sketch (compiler.context operation) after,
          rendering.text = statement.text ∧
            ∀ place ∈ rendering.places, ∀ owner, place.owner = some owner →
              owner.target.aliasName = none →
                (place.context.current.residents = [owner] ↔
                  ¬ place.ReachesOut ∧ place.context.current.bindings.tail = []) := by
  intro compiler chosen operation
  have shown : (compiler.compile operation).1.toOption.map Statement.text =
      some "DELETE FROM order WHERE EXISTS (SELECT order FROM setting sett_1_0)" := by
    decide +kernel
  obtain ⟨statement, compiled, text⟩ := Except.exists_ok_of_map_toOption shown
  obtain ⟨after, rendering, written, speaks⟩ := compile_unaliased_spoken rfl compiled
  exact ⟨statement, after, compiled, text, rendering, written,
    fun place member owner spoken unaliased => (speaks place member owner spoken unaliased).2⟩

end Compiler
end ObjectQuery
