import ObjectQuery.Compiler.Basic
import ObjectQuery.Proofs.Inert.Alike
import ObjectQuery.Resolution.Host
import ObjectQuery.Sample

/-!
# Inert resolvers

A resolver is inert if its answers are never what was asked for, and it does nothing to the
context but bind parameters. The registry passes it over and forgets its parameters, so that
the next resolver starts where the inert one did. It therefore makes no difference where an
inert resolver stands, at how many nodes it is asked, or whether resolvers of the host have
other nodes resolved.
-/

namespace ObjectQuery

/-- The context with more parameters. -/
def Context.withParameters (context : Context) (added : List (String × Parameter)) : Context :=
  { context with parameters := ⟨context.parameters.entries ++ added⟩ }

/-- Answers that are not what was asked for. -/
inductive Resolved.Misses (output : OutputKind) : Resolved → Prop
  | otherKind {resolved : Resolved} (other : resolved.outputKind ≠ output) : Misses output resolved
  | blank {text : String} (isBlank : Text.isBlank text = true) : Misses output (.fragment text)
  | faulty {plan : ProjectionPlan} {reason : String} (fault : plan.fault? = some reason) :
      Misses output (.projection plan)

theorem Resolved.Misses.isAcceptable_eq_false
    {output : OutputKind}
    {resolved : Resolved}
    (misses : resolved.Misses output) :
    resolved.isAcceptable output = false := by
  cases misses with
  | otherKind other => simp [isAcceptable, other]
  | blank isBlank => simp [isAcceptable, fault?, isBlank]
  | faulty fault => simp [isAcceptable, fault?, fault]

/-- Whatever happens, the attempt passes or its answer misses, and it does no more to the
context than to bind parameters. -/
def Resolution.IsInert (attempt : Resolution (Option Resolved)) (output : OutputKind) : Prop :=
  ∀ settings context, ∃ found added,
    attempt settings context = (.ok found, context.withParameters added) ∧
      ∀ resolved ∈ found, resolved.Misses output

/-- At every node of its kind the resolver is inert. -/
def Resolver.IsInert (resolver : Resolver) : Prop :=
  ∀ expression, expression.kind = resolver.kind →
    (resolver.answer expression).IsInert resolver.output

namespace Resolvers

open Resolution

/-- What an inert attempt has bound is forgotten before the next one. -/
theorem firstAcceptable_cons
    {kind : ExpressionKind}
    {output : OutputKind}
    {attempt : Resolution (Option Resolved)}
    (inert : attempt.IsInert output)
    (others : List (Resolution (Option Resolved))) :
    firstAcceptable kind output (attempt :: others) = firstAcceptable kind output others := by
  funext settings context
  obtain ⟨found, added, ran, misses⟩ := inert settings context
  have forgotten : (context.withParameters added).parameters.truncate context.parameters.size =
      context.parameters := by
    simp [Context.withParameters, ParameterTable.truncate, ParameterTable.size]
  have missed : ∀ resolved ∈ found, resolved.isAcceptable output = false :=
    fun resolved member => (misses resolved member).isAcceptable_eq_false
  rw [firstAcceptable_cons_of_missed ran missed, forgotten]
  rfl

/-- An inert attempt may stand anywhere among the others. -/
theorem firstAcceptable_append
    {output : OutputKind}
    {inert : List (Resolution (Option Resolved))}
    (kind : ExpressionKind)
    (each : ∀ attempt ∈ inert, attempt.IsInert output)
    (before after : List (Resolution (Option Resolved))) :
    firstAcceptable kind output (before ++ inert ++ after) =
      firstAcceptable kind output (before ++ after) := by
  induction before with
  | nil =>
      induction inert with
      | nil => rfl
      | cons attempt rest inductionHypothesis =>
          rw [List.forall_mem_cons] at each
          exact (firstAcceptable_cons each.1 _).trans (inductionHypothesis each.2)
  | cons attempt rest inductionHypothesis =>
      simp only [List.cons_append, firstAcceptable, inductionHypothesis]

/-- The answers of resolvers in a list are those of its parts. -/
theorem answersOf_append (first second : List Resolver) (expression : Expression)
    (output : OutputKind) :
    answersOf (first ++ second) expression output =
      answersOf first expression output ++ answersOf second expression output := by
  simp [answersOf]

/-- An inert resolver gives inert answers, or none. -/
theorem isInert_of_mem_answersOf
    {resolver : Resolver}
    (inert : resolver.IsInert)
    (expression : Expression)
    (output : OutputKind) :
    ∀ attempt ∈ answersOf [resolver] expression output, attempt.IsInert output := by
  intro attempt member
  simp only [answersOf, List.mem_map, List.mem_filter, List.mem_singleton,
    decide_eq_true_eq] at member
  obtain ⟨found, ⟨rfl, kind, rfl⟩, rfl⟩ := member
  exact inert expression kind.symm

variable {resolver : Resolver} (inert : resolver.IsInert)

include inert

/-- An inert resolver before the library's own makes no difference. -/
theorem alike_of_isInert_user (before after fallback : List Resolver) (builtIn : Bool) :
    Alike ⟨before ++ resolver :: after, builtIn, fallback⟩
      ⟨before ++ after, builtIn, fallback⟩ := by
  intro expression output own
  have passedOver := firstAcceptable_append expression.kind
    (isInert_of_mem_answersOf inert expression output) (answersOf before expression output)
  have inserted : before ++ resolver :: after = before ++ [resolver] ++ after := by simp
  simp only [dispatch, candidates, inserted, answersOf_append, List.append_assoc] at passedOver ⊢
  rw [passedOver]

/-- An inert resolver after the library's own makes no difference. -/
theorem alike_of_isInert_fallback (user before after : List Resolver) (builtIn : Bool) :
    Alike ⟨user, builtIn, before ++ resolver :: after⟩
      ⟨user, builtIn, before ++ after⟩ := by
  intro expression output own
  have passedOver := firstAcceptable_append expression.kind
    (isInert_of_mem_answersOf inert expression output)
    (answersOf user expression output ++
      (if builtIn ∧ expression.kind.ownOutput? = some output then
        [do let resolved ← own; return some resolved]
      else
        []) ++ answersOf before expression output)
  have inserted : before ++ resolver :: after = before ++ [resolver] ++ after := by simp
  simp only [dispatch, candidates, inserted, answersOf_append, List.append_assoc] at passedOver ⊢
  rw [passedOver]

end Resolvers

namespace HostResolvers

variable {registry : HostResolvers} {resolver : HostResolver} {beyond : Lending}

/-- With the same lent to all, a resolver that is inert with it makes no difference. -/
theorem alike_insert
    {lending : Lending}
    (inert : (resolver.closed lending).IsInert)
    (list : HostList)
    (position : Nat) :
    ((registry.insert list position resolver).closed lending).Alike (registry.closed lending) := by
  have joined (resolvers : List HostResolver) :
      (resolvers.take position).map (·.closed lending) ++
        (resolvers.drop position).map (·.closed lending) = resolvers.map (·.closed lending) := by
    rw [← List.map_append, List.take_append_drop]
  cases list with
  | user =>
      have alike := Resolvers.alike_of_isInert_user inert
        ((registry.user.take position).map (·.closed lending))
        ((registry.user.drop position).map (·.closed lending))
        (registry.fallback.map (·.closed lending)) registry.builtIn
      rw [joined] at alike
      simpa only [insert, closed, List.map_append, List.map_cons] using alike
  | fallback =>
      have alike := Resolvers.alike_of_isInert_fallback inert
        (registry.user.map (·.closed lending))
        ((registry.fallback.take position).map (·.closed lending))
        ((registry.fallback.drop position).map (·.closed lending)) registry.builtIn
      rw [joined] at alike
      simpa only [insert, closed, List.map_append, List.map_cons] using alike

/-- What is lent stays the same when an inert resolver is inserted, since every call that is
lent asks a registry in which the resolvers are lent one call less. -/
theorem lent_insert
    {list : HostList}
    {position : Nat}
    (inert : ∀ calls,
      (resolver.closed ((registry.insert list position resolver).lent beyond calls)).IsInert)
    (calls : Nat) :
    (registry.insert list position resolver).lent beyond calls = registry.lent beyond calls := by
  induction calls with
  | zero => rfl
  | succ calls inductionHypothesis =>
      have alike : Resolvers.Alike _ (registry.closed _) :=
        alike_insert (inert calls) list position
      rw [lent, lent, alike.resolve, inductionHypothesis]

/-- A registry with an inert resolver inserted chooses as the registry without it. -/
theorem granting_insert
    {list : HostList}
    {position : Nat}
    (inert : ∀ calls,
      (resolver.closed ((registry.insert list position resolver).lent beyond calls)).IsInert)
    (calls : Nat) :
    ((registry.insert list position resolver).granting beyond calls).Alike
      (registry.granting beyond calls) := by
  have alike : Resolvers.Alike _ (registry.closed _) := alike_insert (inert calls) list position
  rw [lent_insert inert calls] at alike
  rwa [granting, granting, lent_insert inert calls]

end HostResolvers

namespace Compiler

end Compiler
end ObjectQuery
