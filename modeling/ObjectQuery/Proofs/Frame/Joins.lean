import ObjectQuery.Proofs.Frame.Nodes
import ObjectQuery.Proofs.Sketch.Effect

/-!
# Joined targets have aliases

A source binds its first target and then the joined ones. The library's own resolver refuses
a join whose target gets no alias, and the conditions of joins bind nothing, so that in every
scope at most the first target goes without an alias.
-/

namespace ObjectQuery

open Resolution

/-- Every target of the scope but the first has an alias. -/
def Scope.JoinsAliased (scope : Scope) : Prop :=
  ∀ binding ∈ scope.bindings.tail, binding.aliasName.isSome = true

/-- A context in whose scope in hand there are more targets, all of which have an alias. -/
def Context.AddsAliased (before after : Context) : Prop :=
  ∃ added, after.current.bindings = before.current.bindings ++ added ∧
    ∀ binding ∈ added, binding.aliasName.isSome = true

namespace Context.AddsAliased

variable {before between after : Context}

theorem refl (same : after.current.bindings = before.current.bindings) :
    before.AddsAliased after :=
  ⟨[], by rw [same, List.append_nil], List.forall_mem_nil _⟩

theorem trans (first : before.AddsAliased between) (second : between.AddsAliased after) :
    before.AddsAliased after := by
  obtain ⟨added, bindings, aliased⟩ := first
  obtain ⟨added', bindings', aliased'⟩ := second
  refine ⟨added ++ added', by rw [bindings', bindings, List.append_assoc], ?_⟩
  exact List.forall_mem_append.mpr ⟨aliased, aliased'⟩

end Context.AddsAliased

theorem Resolution.Keeps.ensures
    {result : Type}
    {step : Resolution result}
    {settings : Settings}
    {extent : Extent}
    {before : Context}
    (keeps : step.Keeps settings extent) :
    step.Ensures settings before fun _ after => before.Keeps extent after := by
  intro result after run
  have kept := keeps before
  rwa [run] at kept

namespace BuiltIn

variable {settings : Settings} {before : Context}

theorem introduce_binds (target : Target) :
    (introduce target).Ensures settings before fun binding after =>
      after.current.bindings = before.current.bindings ++ [binding] := by
  refine (introduce_choices target).weaken ?_
  rintro binding _ ⟨catalog, chosen, choice, -, rfl⟩
  rw [Context.bind, choice.bindings]

/-- A joined target is bound like any other, and has an alias. -/
theorem introduceJoined_introduces (joinType : JoinType) (target : Target) :
    (introduceJoined joinType target).Ensures settings before fun binding after =>
      introduce target settings before = (.ok binding, after) ∧
        binding.aliasName.isSome = true := by
  refine .bindDialect (.bindContext ?_)
  split
  · exact .unsupported _
  · intro binding after run
    obtain ⟨found, between, introduced, checked⟩ := exists_between run
    cases given : found.aliasName with
    | none => simp [given, Resolution.fail] at checked
    | some aliasName =>
        obtain ⟨rfl, rfl⟩ : found = binding ∧ between = after := by simpa [given] using checked
        exact ⟨introduced, by simp [given]⟩

theorem introduceJoined_addsAliased (joinType : JoinType) (target : Target) :
    (introduceJoined joinType target).Ensures settings before fun _ after =>
      before.AddsAliased after := by
  refine (introduceJoined_introduces joinType target).weaken ?_
  rintro binding after ⟨introduced, aliased⟩
  exact ⟨[binding], introduce_binds target binding after introduced, by simpa using aliased⟩

theorem joinCondition_addsAliased (condition : Option Filter) :
    (joinCondition .standard condition).Ensures settings before fun _ after =>
      before.AddsAliased after := by
  cases condition with
  | none =>
      simp only [joinCondition]
      exact .pure (.refl rfl)
  | some condition =>
      simp only [joinCondition]
      refine (condition_keeps (filter_keeps condition)).ensures.bind fun text after kept => .pure ?_
      exact .refl (by rw [kept.current])

/-- A join binds the joined target and the targets joined to that. -/
theorem joins_addsAliased :
    (joined : List Join) → (before : Context) →
      (joins .standard joined).Ensures settings before fun _ after => before.AddsAliased after
  | [], before => by
      simp only [joins]
      exact .pure (.refl rfl)
  | .mk joinType (.mk name entity given within) condition :: rest, before => by
      simp only [joins]
      have firsts : (join .standard (.mk joinType (.mk name entity given within)
          condition)).Ensures settings before fun _ after => before.AddsAliased after := by
        simp only [join, innerJoins]
        refine (introduceJoined_addsAliased joinType _).bind fun binding introduced bound => ?_
        refine (joinCondition_addsAliased condition).bind fun text restricted conditions => ?_
        exact (joins_addsAliased within restricted).bind fun inner after inners =>
          .pure ((bound.trans conditions).trans inners)
      refine firsts.bind fun text between bound => ?_
      exact (joins_addsAliased rest between).bind fun texts after rests => .pure (bound.trans rests)

/-- In a scope without targets a source binds targets that have aliases, but for the first. -/
theorem target_joinsAliased (found : Target) (fresh : before.current.bindings = []) :
    (target .standard found).Ensures settings before fun _ after =>
      after.current.JoinsAliased := by
  obtain ⟨name, entity, given, joined⟩ := found
  simp only [target]
  refine (introduce_binds _).bind fun binding between bound => ?_
  refine (joins_addsAliased joined between).bind fun text after joins => .pure ?_
  obtain ⟨others, bindings, aliased⟩ := joins
  rw [Scope.JoinsAliased, bindings, bound, fresh]
  exact aliased

theorem source_joinsAliased (queried : Target) (fresh : before.current.bindings = []) :
    (Resolvers.standard.fragment (.target queried) (do
      let text ← target .standard queried
      return .fragment text)).Ensures settings before fun _ after =>
        after.current.JoinsAliased := by
  have answers : (do
      let text ← target .standard queried
      return Resolved.fragment text).Ensures settings before
        (Resolved.Ensures (fun _ after => after.current.JoinsAliased) fun _ _ => True) :=
    (target_joinsAliased queried fresh).bind fun text after aliased => .pure aliased
  exact (Resolvers.fragment_ensures fun _ => answers).weaken fun _ _ taken => taken.2

end BuiltIn
end ObjectQuery
