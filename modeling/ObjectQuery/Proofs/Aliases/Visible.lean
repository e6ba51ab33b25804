import ObjectQuery.Proofs.Aliases.Distinct
import ObjectQuery.Proofs.Sketch.Sources

/-!
# Targets that are in sight

Where a text speaks of a target, the target is one of those declared so far by the source of
the select around that place, or by the sources of the selects around this one. The targets
of a sub-query are out of sight again behind it, and those that a source declares later are
not yet in sight in the condition of a join.

Where every scope makes up aliases, every target has one, and it is the target's alone, so
that an alias in the text cannot be taken for that of another target.
-/

namespace ObjectQuery

open Resolution

/-! ## Looking up targets -/

/-- A target that is found answers to the qualifier by alias, name or entity. -/
theorem Scope.answers_of_find?
    {scope : Scope}
    {qualifier : String}
    {binding : BoundTarget}
    (found : scope.find? qualifier = some binding) :
    binding ∈ scope.bindings ∧
      (binding.aliasName = some qualifier ∨ binding.name = qualifier ∨
        binding.entity = qualifier) := by
  simp only [find?, Option.or_eq_some_iff] at found
  rcases found with byAlias | ⟨-, byName | ⟨-, byEntity⟩⟩
  · exact ⟨List.mem_of_find?_eq_some byAlias, .inl (by simpa using List.find?_some byAlias)⟩
  · exact ⟨List.mem_of_find?_eq_some byName, .inr (.inl (by simpa using List.find?_some byName))⟩
  · exact ⟨List.mem_of_find?_eq_some byEntity,
      .inr (.inr (by simpa using List.find?_some byEntity))⟩

theorem Scope.mem_residents_of_find?
    {scope : Scope}
    {qualifier : String}
    {binding : BoundTarget}
    (found : scope.find? qualifier = some binding) :
    ⟨scope.sequence, binding⟩ ∈ scope.residents :=
  List.mem_map_of_mem (answers_of_find? found).1

namespace Context

/-- A target that is found is found in one of the scopes. -/
theorem exists_scope_of_residentIn
    {qualifier : String}
    {scopes : List Scope}
    {resident : Resident}
    (found : residentIn qualifier scopes = some resident) :
    ∃ scope ∈ scopes, resident ∈ scope.residents ∧
      scope.find? qualifier = some resident.target := by
  induction scopes with
  | nil => simp [residentIn] at found
  | cons scope outer inductionHypothesis =>
      cases search : scope.find? qualifier with
      | some binding =>
          obtain rfl : ⟨scope.sequence, binding⟩ = resident := by
            simpa [residentIn, search] using found
          exact ⟨scope, List.mem_cons_self, Scope.mem_residents_of_find? search, search⟩
      | none =>
          by_cases closed : scope.aliasMode = .unsupported
          · simp [residentIn, search, closed] at found
          · obtain ⟨around, member, rest⟩ :=
              inductionHypothesis (by simpa [residentIn, search, closed] using found)
            exact ⟨around, List.mem_cons_of_mem _ member, rest⟩

theorem mem_residents_of_residentIn
    {qualifier : String}
    {scopes : List Scope}
    {resident : Resident}
    (found : residentIn qualifier scopes = some resident) :
    resident ∈ scopes.flatMap Scope.residents := by
  obtain ⟨scope, among, member, -⟩ := exists_scope_of_residentIn found
  exact List.mem_flatMap.mpr ⟨scope, among, member⟩

/-- A target that is found, by a qualifier or as root, is one of the open scopes. -/
theorem mem_residents_of_resident?
    {context : Context}
    {qualifier? : Option String}
    {resident : Resident}
    (found : context.resident? qualifier? = some resident) :
    resident ∈ context.residents := by
  cases qualifier? with
  | some qualifier => exact mem_residents_of_residentIn found
  | none =>
      obtain ⟨binding, root, rfl⟩ := Option.map_eq_some_iff.mp found
      rw [residents, List.flatMap_cons, List.mem_append]
      exact .inl (List.mem_map_of_mem (List.mem_of_mem_head? root))

end Context

/-! ## Scoped runs -/

namespace Rendering

variable {settings : Settings} {sketch : Sketch} {before after : Context}

/-- Every target that is spoken of is in sight: one of the given ones, or one that the run
itself declares before, in the same scope or around it. -/
def Scoped : {sketch : Sketch} → {before after : Context} →
    Rendering settings sketch before after → List Resident → Prop
  | _, _, _, .filling _ _, _ | _, _, _, .declaration _ _ _, _ => True
  | _, _, _, .mention found before, visible =>
      ∀ resident ∈ owner found before, resident ∈ visible
  | _, _, _, .append firstPart secondPart, visible =>
      firstPart.Scoped visible ∧ secondPart.Scoped (visible ++ firstPart.bound)
  | _, _, _, .expecting innerPart, visible => innerPart.Scoped visible
  | _, _, _, .call argumentPart, visible => argumentPart.Scoped visible
  | _, _, _, .select sourcePart clausesPart selectedPart, visible =>
      sourcePart.Scoped visible ∧ clausesPart.Scoped (visible ++ sourcePart.bound) ∧
        selectedPart.Scoped (visible ++ sourcePart.bound)
  | _, _, _, .nested queryPart, visible => queryPart.Scoped visible

/-- A run binds in its own scope what its sketch declares there. -/
theorem map_name_bound (rendering : Rendering settings sketch before after) :
    (rendering.bound.map fun resident => resident.target.name) =
      sketch.declared.map Target.name := by
  induction rendering with
  | filling | mention | nested => rfl
  | declaration binding valid introduced =>
      obtain ⟨catalog, chosen, -, named, -⟩ := introduce_choices _ _ _ introduced
      simp [bound, Sketch.declared, named]
  | append _ _ firstHypothesis secondHypothesis =>
      rw [bound, Sketch.declared, List.map_append, List.map_append, firstHypothesis,
        secondHypothesis]
  | expecting _ inductionHypothesis => exact inductionHypothesis
  | call _ inductionHypothesis => exact inductionHypothesis
  | select _ _ _ sourceHypothesis clausesHypothesis selectedHypothesis =>
      simp only [bound, Sketch.declared, List.map_append, sourceHypothesis, clausesHypothesis,
        selectedHypothesis]

theorem bound_eq_nil
    (rendering : Rendering settings sketch before after)
    (still : sketch.declared = []) :
    rendering.bound = [] := by
  have names := rendering.map_name_bound
  rwa [still, List.map_nil, List.map_eq_nil_iff] at names

/-- A run over a sketch whose selects are sourced speaks only of targets in sight. -/
theorem scoped_of_sourced
    (rendering : Rendering settings sketch before after)
    {visible : List Resident}
    (sourced : sketch.Sourced)
    (seen : ∀ resident ∈ before.residents, resident ∈ visible) :
    rendering.Scoped visible := by
  -- what is in sight grows by what the parts before have bound, as the context's targets do
  have grown : ∀ {sketch : Sketch} {before after : Context} {visible : List Resident}
      (part : Rendering settings sketch before after),
      (∀ resident ∈ before.residents, resident ∈ visible) →
        ∀ resident ∈ after.residents, resident ∈ visible ++ part.bound := by
    intro sketch before after visible part seen resident member
    rcases (part.continues.mem_residents resident).mp member with earlier | new
    · exact List.mem_append_left _ (seen resident earlier)
    · exact List.mem_append_right _ new
  induction rendering generalizing visible with
  | filling | declaration => trivial
  | mention found before =>
      exact fun resident spoken => seen resident (Context.mem_residents_of_resident? spoken)
  | append firstPart _ firstHypothesis secondHypothesis =>
      exact ⟨firstHypothesis sourced.1 seen, secondHypothesis sourced.2 (grown firstPart seen)⟩
  | expecting _ inductionHypothesis => exact inductionHypothesis sourced seen
  | call _ inductionHypothesis => exact inductionHypothesis sourced seen
  | select sourcePart clausesPart _ sourceHypothesis clausesHypothesis selectedHypothesis =>
      obtain ⟨source, ⟨clauses, still⟩, selected, -⟩ := sourced
      have sourcedSeen := grown sourcePart seen
      have restrictedSeen := grown clausesPart sourcedSeen
      rw [clausesPart.bound_eq_nil still, List.append_nil] at restrictedSeen
      exact ⟨sourceHypothesis source seen, clausesHypothesis clauses sourcedSeen,
        selectedHypothesis selected restrictedSeen⟩
  | nested _ inductionHypothesis => exact inductionHypothesis sourced seen

end Rendering

/-! ## Aliases of all targets -/

/-- Every open scope makes up aliases, and every target has one. -/
structure AllAliased (past : List Resident) (context : Context) : Prop where
  modes : ∀ scope ∈ context.current :: context.enclosing, scope.aliasMode = .auto
  aliased : ∀ resident ∈ past, resident.target.aliasName.isSome = true

theorem AliasChoice.isSome_of_auto
    {context chosen : Context}
    {name : String}
    {given aliasName : Option String}
    (choice : AliasChoice context name given aliasName chosen)
    (isAuto : context.current.aliasMode = .auto) :
    aliasName.isSome = true := by
  cases choice with
  | unsupported isUnsupported => simp [isAuto] at isUnsupported
  | default isDefault => simp [isAuto] at isDefault
  | given | auto => rfl

theorem allAliased_invariant : RunInvariant (fun _ => True) AllAliased where
  unseen holds current enclosing _ _ := by
    obtain ⟨modes, aliased⟩ := holds
    rw [← current, ← enclosing] at modes
    exact ⟨modes, aliased⟩
  declare {past before chosen target binding} holds _ _ choice _ := by
    obtain ⟨modes, aliased⟩ := holds
    have isAuto := modes before.current List.mem_cons_self
    refine ⟨?_, ?_⟩
    · simpa [Context.bind, choice.aliasMode, choice.enclosing] using modes
    · intro resident member
      rcases List.mem_append.mp member with earlier | new
      · exact aliased resident earlier
      · rw [List.mem_singleton.mp new]
        exact choice.isSome_of_auto isAuto
  enter {past before} holds := by
    refine ⟨List.forall_mem_cons.mpr ⟨?_, holds.modes⟩, holds.aliased⟩
    rw [Context.enter, Scope.empty, holds.modes before.current List.mem_cons_self]
    rfl
  leave {past before after} holds inside := by
    obtain ⟨modes, aliased⟩ := holds
    rw [inside] at modes
    exact ⟨(List.forall_mem_cons.mp modes).2, aliased⟩

theorem Resident.map_aliasName
    {residents : List Resident}
    (aliased : ∀ resident ∈ residents, resident.target.aliasName.isSome = true) :
    (residents.map fun resident => resident.target.aliasName) =
      (Resident.aliases residents).map some := by
  induction residents with
  | nil => rfl
  | cons first rest inductionHypothesis =>
      obtain ⟨firstAliased, restAliased⟩ := List.forall_mem_cons.mp aliased
      obtain ⟨aliasName, given⟩ := Option.isSome_iff_exists.mp firstAliased
      simpa [Resident.aliases, given] using inductionHypothesis restAliased

/-- Targets that all have an alias have distinct ones as soon as the aliases are distinct. -/
theorem Resident.nodup_aliasName
    {residents : List Resident}
    (aliased : ∀ resident ∈ residents, resident.target.aliasName.isSome = true)
    (distinct : (Resident.aliases residents).Nodup) :
    (residents.map fun resident => resident.target.aliasName).Nodup := by
  rw [Resident.map_aliasName aliased]
  exact List.Pairwise.map some (fun _ _ different equal => different (Option.some.inj equal))
    distinct

/-! ## Statements -/

theorem validate_of_compose
    {registry : Resolvers}
    {settings : Settings}
    {before : Context}
    (operation : Operation) :
    (operation.compose registry).Ensures settings before fun _ _ => operation.validate = .ok () := by
  refine .bindContext ?_
  split
  · exact .bindChecked fun valid _ _ _ => valid
  · exact .fail _

namespace Compiler

variable {compiler : Compiler} {operation : Operation} {statement : Statement}

/-- Where a compiled select speaks of a target, it is one that the select around that place,
or a select around this one, has declared before in its source. Every target has an alias, and
no two of the statement have the same. -/
theorem compile_select_scoped
    (standard : compiler.registry = Resolvers.standard)
    (isAuto : compiler.config.aliasMode = .auto)
    (isSelect : operation.kind = .select)
    (compiled : (compiler.compile operation).1 = .ok statement) :
    ∃ after,
      ∃ rendering : Rendering compiler.settings operation.sketch (compiler.context operation) after,
        rendering.text = statement.text ∧
          rendering.Scoped [] ∧
          (∀ resident ∈ rendering.residents, resident.target.aliasName.isSome = true) ∧
          (rendering.residents.map fun resident => resident.target.aliasName).Nodup := by
  obtain ⟨composed, after, run, rfl⟩ := exists_composed compiled
  rw [standard] at run
  obtain ⟨rendering, written⟩ := compose_guided operation composed after run
  have sourced := operation.sketch_sourced isSelect (validate_of_compose operation composed after run)
  have mode : (compiler.context operation).current.aliasMode = .auto := by
    simp [context, Context.root, Scope.empty, AliasPolicy.forStatement, isSelect, isAuto,
      OperationKind.isWrite]
  have start : AllAliased [] (compiler.context operation) :=
    ⟨List.forall_mem_singleton.mpr mode, List.forall_mem_nil _⟩
  have aliased := (allAliased_invariant.preserved rendering (fun _ _ => trivial) start).aliased
  have distinctAliases := distinctAliases_of_rendering rendering
  refine ⟨after, rendering, written, rendering.scoped_of_sourced sourced ?_, aliased, ?_⟩
  · simp [context, Context.root, Context.residents, Scope.residents, Scope.empty]
  · exact Resident.nodup_aliasName aliased (distinctAliases.owned ▸ distinctAliases.distinct)

/-- The customers with a large order: the condition of the sub-query speaks of the customer
around it, and the text declares the aliases of both. -/
theorem customers_select_scoped :
    let compiler : Compiler :=
      ⟨.standard .hibernate, (Configuration.standard .hibernate).dialect, .standard, none⟩
    let operation := Sample.customersWithLargeOrders 100
    ∃ statement after,
      (compiler.compile operation).1 = .ok statement ∧
        statement.text =
          "SELECT cust_0_0 FROM customer cust_0_0 WHERE EXISTS (SELECT orde_1_0.id " ++
            "FROM order orde_1_0 WHERE (orde_1_0.customerId=cust_0_0.id) AND " ++
            "(orde_1_0.total>:p0001))" ∧
        ∃ rendering :
          Rendering compiler.settings operation.sketch (compiler.context operation) after,
          rendering.text = statement.text ∧ rendering.Scoped [] := by
  intro compiler operation
  have shown : (compiler.compile operation).1.toOption.map Statement.text =
      some ("SELECT cust_0_0 FROM customer cust_0_0 WHERE EXISTS (SELECT orde_1_0.id " ++
        "FROM order orde_1_0 WHERE (orde_1_0.customerId=cust_0_0.id) AND " ++
        "(orde_1_0.total>:p0001))") := by
    decide +kernel
  obtain ⟨statement, compiled, text⟩ := Except.exists_ok_of_map_toOption shown
  obtain ⟨after, rendering, written, isScoped, -, -⟩ := compile_select_scoped rfl rfl rfl compiled
  exact ⟨statement, after, compiled, text, rendering, written, isScoped⟩

end Compiler
end ObjectQuery
