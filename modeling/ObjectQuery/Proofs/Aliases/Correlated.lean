import ObjectQuery.Compiler.Configuration
import ObjectQuery.Proofs.Aliases.Unaliased
import ObjectQuery.Sample

/-!
# Correlations

A sub-query names the targets around it that it reads, and these are looked up as it is
entered, before it has bound anything. Its condition is written later, when its own targets
stand in front of those around: a property under such a name is that of the target around
only if none of the sub-query's own targets answers to the name as well.
-/

namespace ObjectQuery

open Resolution

variable {settings : Settings} {sketch : Sketch} {before after : Context}

/-! ## Lookups -/

theorem Scope.find?_congr
    {scope other : Scope}
    (same : scope.bindings = other.bindings)
    (qualifier : String) :
    scope.find? qualifier = other.find? qualifier := by
  rw [find?, find?, same]

theorem Context.find?_eq_or
    {context : Context}
    (isOpen : context.current.aliasMode ≠ .unsupported)
    (qualifier : String) :
    context.find? qualifier =
      (context.current.find? qualifier).or (findIn qualifier context.enclosing) := by
  cases own : context.current.find? qualifier <;> simp [find?, findIn, own, isOpen]

/-- As a sub-query is entered, it sees what is seen around it. -/
theorem Context.find?_enter
    {aliasMode : AliasPolicy}
    (isOpen : aliasMode ≠ .unsupported)
    (qualifier : String) :
    (before.enter aliasMode).find? qualifier = before.find? qualifier := by
  have nothing : (Scope.empty before.nextSequence aliasMode).find? qualifier = none := rfl
  rw [find?_eq_or isOpen, enter, nothing, Option.none_or, find?]

/-! ## Fresh aliases -/

/-- The aliases that are recorded are the earlier ones and those of the targets bound since. -/
theorem recordedAliases_invariant (earlier : List String) :
    RunInvariant (fun _ => True)
      fun past context => context.aliases = earlier ++ Resident.aliases past where
  unseen holds _ _ same _ := by rwa [same]
  declare holds _ _ choice _ := by
    rw [Context.bind, choice.aliases, holds, Resident.aliases_append, Resident.aliases_singleton,
      List.append_assoc]
  enter holds := holds
  leave holds _ := holds

theorem Rendering.aliases_grow (rendering : Rendering settings sketch before after) :
    before.aliases <+: after.aliases := by
  have start : before.aliases = before.aliases ++ Resident.aliases [] := (List.append_nil _).symm
  have recorded := (recordedAliases_invariant before.aliases).preserved rendering
    (fun _ _ => trivial) start
  exact ⟨_, recorded.symm⟩

/-- A target has an alias, which is none of those used before. -/
def BoundTarget.FreshIn (binding : BoundTarget) (aliases : List String) : Prop :=
  ∃ aliasName, binding.aliasName = some aliasName ∧ aliasName ∉ aliases

theorem BoundTarget.FreshIn.restrict
    {binding : BoundTarget}
    {aliases earlier : List String}
    (fresh : binding.FreshIn aliases)
    (start : earlier <+: aliases) :
    binding.FreshIn earlier := by
  obtain ⟨aliasName, given, unused⟩ := fresh
  exact ⟨aliasName, given, fun used => unused (start.subset used)⟩

/-- Where aliases are made up, what a run binds in its own scope has new ones. -/
theorem Rendering.bound_fresh
    (rendering : Rendering settings sketch before after)
    (isAuto : before.current.aliasMode = .auto) :
    ∀ resident ∈ rendering.bound, resident.target.FreshIn before.aliases := by
  -- what a later part binds is new to the earlier contexts, too
  have carried : ∀ {sketch : Sketch} {before between : Context} {bound : List Resident}
      (_ : Rendering settings sketch before between),
      (∀ resident ∈ bound, resident.target.FreshIn between.aliases) →
        ∀ resident ∈ bound, resident.target.FreshIn before.aliases :=
    fun part fresh resident member => (fresh resident member).restrict part.aliases_grow
  induction rendering with
  | filling | mention | nested => exact List.forall_mem_nil _
  | declaration binding valid introduced =>
      obtain ⟨catalog, chosen, choice, -, -⟩ := introduce_choices _ _ _ introduced
      obtain ⟨aliasName, given⟩ := Option.isSome_iff_exists.mp (choice.isSome_of_auto isAuto)
      exact List.forall_mem_singleton.mpr ⟨aliasName, given, choice.unused aliasName given⟩
  | append firstPart _ firstHypothesis secondHypothesis =>
      have seconds := secondHypothesis (firstPart.continues.aliasMode.trans isAuto)
      exact List.forall_mem_append.mpr ⟨firstHypothesis isAuto, carried firstPart seconds⟩
  | expecting _ inductionHypothesis => exact inductionHypothesis isAuto
  | call _ inductionHypothesis => exact inductionHypothesis isAuto
  | select sourcePart clausesPart _ sourceHypothesis clausesHypothesis selectedHypothesis =>
      have sourcedAuto := sourcePart.continues.aliasMode.trans isAuto
      have clauses := clausesHypothesis sourcedAuto
      have selects := selectedHypothesis (clausesPart.continues.aliasMode.trans sourcedAuto)
      have behind := List.forall_mem_append.mpr ⟨clauses, carried clausesPart selects⟩
      exact List.forall_mem_append.mpr ⟨sourceHypothesis isAuto, carried sourcePart behind⟩

/-- A target that the source of a sub-query shows has an alias that was not used before. -/
theorem Rendering.fresh_of_find?
    {aliasMode : AliasPolicy}
    (rendering : Rendering settings sketch (before.enter aliasMode) after)
    (isAuto : aliasMode = .auto)
    {qualifier : String}
    {binding : BoundTarget}
    (found : after.current.find? qualifier = some binding) :
    binding.FreshIn before.aliases := by
  have member := Scope.mem_residents_of_find? found
  rw [rendering.continues.residents] at member
  exact rendering.bound_fresh isAuto _ member

/-- What a source declares it shows under its name. -/
theorem Rendering.find?_ne_none_of_declared
    (rendering : Rendering settings sketch before after)
    {target : Target}
    (declares : target ∈ sketch.declared) :
    after.current.find? target.name ≠ none := by
  have named : target.name ∈ sketch.declared.map Target.name := List.mem_map_of_mem declares
  rw [← rendering.map_name_bound] at named
  obtain ⟨resident, bound, sameName⟩ := List.mem_map.mp named
  have member : resident.target ∈ after.current.bindings := by
    rw [← Scope.map_target_residents, rendering.continues.residents]
    exact List.mem_map_of_mem (List.mem_append_right _ bound)
  exact fun missing => (Scope.find?_eq_none_iff.mp missing _ member).2.1 sameName

/-! ## Places of a condition -/

/-- A place outside the sub-queries of a condition sees the targets that the condition starts
with, and those around them. -/
theorem Rendering.find?_of_mem_ownPlaces
    (rendering : Rendering settings sketch before after)
    (settled : sketch.Settled)
    {place : Place}
    (member : place ∈ rendering.ownPlaces)
    (qualifier : String) :
    place.context.current.find? qualifier = before.current.find? qualifier ∧
      place.context.find? qualifier = before.find? qualifier := by
  obtain ⟨earlier, continues, start⟩ := rendering.follows_of_mem_ownPlaces member
  rw [rendering.bound_eq_nil settled.2, List.prefix_nil] at start
  have same : place.context.current.bindings = before.current.bindings := by
    rw [← Scope.map_target_residents, continues.residents, start, List.append_nil,
      Scope.map_target_residents]
  have own := Scope.find?_congr same qualifier
  refine ⟨own, ?_⟩
  rw [Context.find?, Context.find?, Context.findIn, Context.findIn, own, continues.enclosing,
    continues.aliasMode]

/-- A qualified property is written under the alias of the target that is found. -/
theorem Place.text_of_finds
    {place : Place}
    {path : Path}
    {qualifier aliasName : String}
    {binding : BoundTarget}
    (isProperty : place.found = .property path)
    (qualified : path.qualifier? = some qualifier)
    (found : place.context.find? qualifier = some binding)
    (given : binding.aliasName = some aliasName) :
    place.text = aliasName ++ "." ++ path.fullName := by
  have owns : place.owner.map Resident.target = some binding := by
    rw [owner, Rendering.owner, isProperty, Mention.qualifier?, qualified,
      Context.map_resident?_some, found]
  rw [text, owns, isProperty, BuiltIn.text_property, Option.bind_some, given]

/-! ## Sub-queries -/

namespace BuiltIn

theorem childMode_ne_unsupported (aliasMode : AliasPolicy) :
    childMode aliasMode ≠ .unsupported := by
  cases aliasMode <;> simp [childMode]

/-- The correlations of a sub-query that is written name targets around it. -/
theorem subQuery_finds
    (queried : Target)
    (condition : Option Filter)
    (selected : Projection)
    (correlations : List String) :
    (subQuery .standard (.mk queried condition selected correlations)).Ensures settings before
      fun _ _ => ∀ name ∈ correlations, ∃ outer, before.find? name = some outer := by
  rw [subQuery_eq]
  refine .bindContext (.inChild ?_)
  refine (checkCorrelations_finds correlations).bind fun _ _ checked _ _ _ name member => ?_
  obtain ⟨outer, found⟩ := checked.1 name member
  exact ⟨outer, by rwa [← Context.find?_enter (childMode_ne_unsupported _)]⟩

end BuiltIn

variable
  {queried : Target}
  {condition : Filter}
  {selected : Projection}
  {correlations : List String}
  {text : String}

/-- The runs over the parts of a sub-query with a condition, from the context in which it is
entered on. -/
theorem SubQuery.exists_parts
    (writes :
      (SubQuery.mk queried (some condition) selected correlations).sketch.Writes settings before
        text after) :
    ∃ sourced restricted final,
      ∃ sourcePart : Rendering settings queried.sketch
          (before.enter (BuiltIn.childMode before.current.aliasMode)) sourced,
        ∃ conditionPart : Rendering settings condition.sketch sourced restricted,
          ∃ selectedPart : Rendering settings selected.sketch restricted final,
            conditionPart.Guarded ∧
              text = "SELECT " ++ selectedPart.text ++ " FROM " ++ sourcePart.text ++ " WHERE " ++
                conditionPart.text := by
  simp only [SubQuery.sketch, Filter.sketchAfter, Sketch.words] at writes
  obtain ⟨rendering, guarded, rfl⟩ := writes
  cases rendering with
  | nested queryPart =>
      cases queryPart with
      | select sourcePart clausesPart selectedPart =>
          cases clausesPart with
          | append wordsPart conditionPart =>
              cases wordsPart with
              | filling opening written =>
                  cases written
                  refine ⟨_, _, _, sourcePart, conditionPart, selectedPart, guarded.1.2.1.2, ?_⟩
                  simp [Rendering.text, String.append_assoc]

namespace Resolvers

theorem fragmentOf_subQuery_writes :
    (standard.fragmentOf
        (.subQuery (.mk queried (some condition) selected correlations))).Ensures settings before
      fun text after =>
        (SubQuery.mk queried (some condition) selected correlations).sketch.Writes settings before
            text after ∧
          (∀ name ∈ correlations, ∃ outer, before.find? name = some outer) ∧
          Validation.filter condition = .ok () := by
  let query := SubQuery.mk queried (some condition) selected correlations
  have answers (valid : (Expression.subQuery query).validate = .ok ()) :
      (BuiltIn.answer .standard (.subQuery query)).Ensures settings before
        (Resolved.Ensures (fun text after =>
          query.sketch.Writes settings before text after ∧
            (∀ name ∈ correlations, ∃ outer, before.find? name = some outer) ∧
            Validation.filter condition = .ok ()) fun _ _ => True) := by
    simp only [query, Expression.validate, Validation.expression, Validation.subQuery,
      Validation.andThen_ok_iff] at valid
    simp only [BuiltIn.answer]
    refine Ensures.bind ((BuiltIn.subQuery_guided query before).and
      (BuiltIn.subQuery_finds queried (some condition) selected correlations)) ?_
    exact fun text after both => .pure ⟨both.1, both.2, valid.2.1⟩
  exact (fragment_ensures answers).weaken fun _ _ taken => taken.2

/--
A property of a correlated target that the condition of a sub-query reads outside of further
sub-queries. Where none of the sub-query's own targets answers to the correlation, it is
written under the alias that the correlation had when the sub-query was entered; where one
does, it is written under the alias of that one, which was not in use before.
-/
theorem fragmentOf_subQuery_correlated
    (isAuto : BuiltIn.childMode before.current.aliasMode = .auto)
    (run :
      standard.fragmentOf (.subQuery (.mk queried (some condition) selected correlations)) settings
          before =
        (.ok text, after)) :
    ∃ sourced restricted final,
      ∃ sourcePart : Rendering settings queried.sketch
          (before.enter (BuiltIn.childMode before.current.aliasMode)) sourced,
        ∃ conditionPart : Rendering settings condition.sketch sourced restricted,
          ∃ selectedPart : Rendering settings selected.sketch restricted final,
            text = "SELECT " ++ selectedPart.text ++ " FROM " ++ sourcePart.text ++ " WHERE " ++
                conditionPart.text ∧
              ∀ place ∈ conditionPart.ownPlaces, ∀ path name, place.found = .property path →
                path.qualifier? = some name → name ∈ correlations →
                  ∃ outer, before.find? name = some outer ∧
                    match sourced.current.find? name with
                    | none =>
                        ∃ aliasName, outer.aliasName = some aliasName ∧
                          place.text = aliasName ++ "." ++ path.fullName
                    | some own =>
                        ∃ aliasName, own.aliasName = some aliasName ∧
                          aliasName ∉ before.aliases ∧
                          place.text = aliasName ++ "." ++ path.fullName := by
  obtain ⟨writes, finds, valid⟩ := fragmentOf_subQuery_writes text after run
  obtain ⟨sourced, restricted, final, sourcePart, conditionPart, selectedPart, guarded, written⟩ :=
    SubQuery.exists_parts writes
  refine ⟨sourced, restricted, final, sourcePart, conditionPart, selectedPart, written, ?_⟩
  intro place member path name isProperty qualified correlated
  obtain ⟨outer, around⟩ := finds name correlated
  refine ⟨outer, around, ?_⟩
  -- the place sees the sub-query's own targets, and behind them what was around at the start
  have settled := Filter.sketch_settled condition valid
  obtain ⟨ownSeen, seen⟩ := conditionPart.find?_of_mem_ownPlaces settled member name
  have isOpen : sourced.current.aliasMode ≠ .unsupported := by
    rw [sourcePart.continues.aliasMode]
    exact BuiltIn.childMode_ne_unsupported _
  rw [Context.find?_eq_or isOpen, sourcePart.continues.enclosing] at seen
  cases own : sourced.current.find? name with
  | none =>
      rw [own, Option.none_or] at seen
      have guardedHere := conditionPart.guardedIn_of_mem_places guarded
        (conditionPart.mem_places_of_mem_ownPlaces member)
      rw [isProperty] at guardedHere
      obtain ⟨binding, found, aliased⟩ := guardedHere name qualified
      obtain rfl : binding = outer := Option.some.inj (found.symm.trans (seen.trans around))
      obtain ⟨aliasName, given⟩ := Option.isSome_iff_exists.mp (aliased (ownSeen.trans own))
      exact ⟨aliasName, given, Place.text_of_finds isProperty qualified found given⟩
  | some binding =>
      rw [own, Option.some_or] at seen
      obtain ⟨aliasName, given, unused⟩ := sourcePart.fresh_of_find? isAuto own
      exact ⟨aliasName, given, unused, Place.text_of_finds isProperty qualified seen given⟩

/-- Orders with a larger total than another one: the order of the sub-query stands in front of
the order around it, and the total that was meant to be that of the latter is its own. -/
theorem selfCorrelated_subQuery_captured :
    let settings : Settings :=
      ⟨(Configuration.standard .hibernate).dialect, "default", standardDepthLimit⟩
    let before := (introduce (Target.named "order") settings (.root .auto none)).2
    let larger : Filter :=
      .compare (.path Sample.total) (.greater false) (.path (Sample.total.ofTarget "order"))
    let query :=
      SubQuery.mk (Target.named "order") (some larger) (.path Sample.identifier) ["order"]
    let text := "SELECT orde_1_0.id FROM order orde_1_0 WHERE orde_1_0.total>orde_1_0.total"
    (before.find? "order").map BoundTarget.aliasName = some (some "orde_0_0") ∧
      ∃ after,
        standard.fragmentOf (.subQuery query) settings before = (.ok text, after) ∧
          ∃ sourced restricted,
            ∃ conditionPart : Rendering settings larger.sketch sourced restricted,
              conditionPart.ownPlaces.map Place.found =
                  [.property Sample.total, .property (Sample.total.ofTarget "order")] ∧
                ∀ place ∈ conditionPart.ownPlaces, ∀ path, place.found = .property path →
                  path.qualifier? = some "order" →
                    ∃ aliasName, aliasName ∉ before.aliases ∧
                      place.text = aliasName ++ "." ++ path.fullName := by
  intro settings before larger query text
  have written :
      (standard.fragmentOf (.subQuery query) settings before).1.toOption = some text := by
    decide +kernel
  refine ⟨by decide +kernel, ?_⟩
  cases run : standard.fragmentOf (.subQuery query) settings before with
  | mk outcome after =>
      rw [run] at written
      obtain rfl := Except.eq_ok_of_toOption written
      obtain ⟨sourced, restricted, -, sourcePart, conditionPart, -, -, reads⟩ :=
        fragmentOf_subQuery_correlated rfl run
      refine ⟨after, rfl, sourced, restricted, conditionPart, ?_, ?_⟩
      · rw [conditionPart.map_found_ownPlaces]
        simp [larger, Filter.sketch, Expression.sketch, Sketch.enclosing, Sketch.words,
          Sketch.ownMentions]
      intro place member path isProperty qualified
      have declares : Target.named "order" ∈ (Target.named "order").sketch.declared := by
        simp [Target.named, Target.sketch, Join.sketches, Sketch.words, Sketch.declared]
      have shown := sourcePart.find?_ne_none_of_declared declares
      obtain ⟨outer, -, written⟩ :=
        reads place member path "order" isProperty qualified List.mem_cons_self
      split at written
      · next missing => exact (shown missing).elim
      · next own _ =>
          obtain ⟨aliasName, -, unused, written⟩ := written
          exact ⟨aliasName, unused, written⟩

end Resolvers
end ObjectQuery
