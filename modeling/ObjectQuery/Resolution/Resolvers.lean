import ObjectQuery.Resolution.Basic
import ObjectQuery.Row.Plan

/-!
# Resolvers and their registry

A resolver answers for one kind of node with one kind of output, or passes. The
registry asks the resolvers of the host, then the library's own, then the fallback
resolvers of the host, each list in the order of registration. An answer of the
wrong kind, a blank fragment and a faulty plan count as passes; the parameters bound
by a resolver that passed are forgotten.
-/

namespace ObjectQuery

/-- The answer of a resolver. -/
inductive Resolved where
  | fragment (text : String)
  /-- A conjunction or disjunction without conditions. -/
  | emptyPredicate
  | projection (plan : ProjectionPlan)

namespace Resolved

/-- The kind of an answer. -/
def outputKind : Resolved → OutputKind
  | .fragment _ | .emptyPredicate => .fragment
  | .projection _ => .projection

/-- What is wrong with an answer, if anything is. -/
def fault? : Resolved → Option String
  | .fragment text => if Text.isBlank text then some "resolved fragment is empty" else none
  | .emptyPredicate => none
  | .projection plan => plan.fault?

/-- Whether an answer is what was asked for. -/
def isAcceptable (resolved : Resolved) (output : OutputKind) : Bool :=
  resolved.outputKind == output && resolved.fault?.isNone

end Resolved

/-- A resolver of the host. -/
structure Resolver where
  name : String
  kind : ExpressionKind
  output : OutputKind
  answer : Expression → Resolution (Option Resolved)

/-- The output that the library's own resolver of a kind gives; custom kinds have none. -/
def ExpressionKind.ownOutput? : ExpressionKind → Option OutputKind
  | .custom _ _ => none
  | .projection => some .projection
  | _ => some .fragment

/-- The kinds with a resolver of the library's own, in the order of registration. -/
def ExpressionKind.own : List ExpressionKind :=
  [.path, .constant, .function, .filter, .target, .sort, .aggregation, .projection, .subQuery]

/-- The resolvers for a statement. -/
structure Resolvers where
  user : List Resolver
  /-- Whether the library's own resolvers take part. -/
  builtIn : Bool
  fallback : List Resolver

namespace Resolvers

/-- The library's own resolvers alone. -/
def standard : Resolvers :=
  ⟨[], true, []⟩

/-- No resolvers. -/
def bare : Resolvers :=
  ⟨[], false, []⟩

/-- The registry with one more resolver before the library's own. -/
def register (registry : Resolvers) (resolver : Resolver) : Resolvers :=
  { registry with user := registry.user ++ [resolver] }

/-- The registry with one more resolver after the library's own. -/
def registerLast (registry : Resolvers) (resolver : Resolver) : Resolvers :=
  { registry with fallback := registry.fallback ++ [resolver] }

/-- The number of resolvers. -/
def size (registry : Resolvers) : Nat :=
  registry.user.length + (if registry.builtIn then ExpressionKind.own.length else 0) +
    registry.fallback.length

/-- The answers of the resolvers that declare a kind and an output. -/
def answersOf (resolvers : List Resolver) (expression : Expression) (output : OutputKind) :
    List (Resolution (Option Resolved)) :=
  (resolvers.filter fun resolver =>
    resolver.kind = expression.kind ∧ resolver.output = output).map fun resolver =>
      resolver.answer expression

/-- The answers to be tried for a node, given the library's own. -/
def candidates (registry : Resolvers) (expression : Expression) (output : OutputKind)
    (own : Resolution Resolved) : List (Resolution (Option Resolved)) :=
  answersOf registry.user expression output ++
    (if registry.builtIn ∧ expression.kind.ownOutput? = some output then
      [do let resolved ← own; return some resolved]
    else
      []) ++
    answersOf registry.fallback expression output

/-- With no host resolvers the only answer to be tried is the library's own. -/
theorem standard_candidates (expression : Expression) (output : OutputKind)
    (own : Resolution Resolved) :
    standard.candidates expression output own =
      if expression.kind.ownOutput? = some output then
        [do let resolved ← own; return some resolved]
      else
        [] := by
  simp [standard, candidates, answersOf]

/-- The first acceptable answer. -/
def firstAcceptable (kind : ExpressionKind) (output : OutputKind) :
    List (Resolution (Option Resolved)) → Resolution Resolved
  | [] => Resolution.fail (.unresolvable kind.name output)
  | attempt :: rest => do
      let bound ← Resolution.parameterCount
      match ← attempt with
      | some resolved =>
          if resolved.isAcceptable output then
            return resolved
          else
            Resolution.forgetParameters bound
            firstAcceptable kind output rest
      | none =>
          Resolution.forgetParameters bound
          firstAcceptable kind output rest

/-- After an attempt that passed or missed the others are tried, without its parameters. -/
theorem firstAcceptable_cons_of_missed
    {settings : Settings}
    {output : OutputKind}
    {attempt : Resolution (Option Resolved)}
    {others : List (Resolution (Option Resolved))}
    {found : Option Resolved}
    {before between : Context}
    (ran : attempt settings before = (.ok found, between))
    (missed : ∀ resolved ∈ found, resolved.isAcceptable output = false)
    (kind : ExpressionKind) :
    firstAcceptable kind output (attempt :: others) settings before =
      firstAcceptable kind output others settings
        { between with parameters := between.parameters.truncate before.parameters.size } := by
  simp only [firstAcceptable, Resolution.bind_apply, Resolution.parameterCount, ran]
  cases found with
  | none => rfl
  | some resolved =>
      simp only [missed resolved rfl, Bool.false_eq_true, if_false]
      rfl

/-- A node is checked, and the first acceptable answer taken. -/
def dispatch (registry : Resolvers) (expression : Expression) (output : OutputKind)
    (own : Resolution Resolved) : Resolution Resolved := do
  Resolution.ofChecked expression.validate
  firstAcceptable expression.kind output (registry.candidates expression output own)

/-- The text of a node; an empty predicate has none. -/
def fragment (registry : Resolvers) (expression : Expression)
    (own : Resolution Resolved) : Resolution String := do
  match ← registry.dispatch expression .fragment own with
  | .fragment text => return text
  | .emptyPredicate => Resolution.fail .emptyPredicate
  | .projection _ => Resolution.fail (.build "projection returned for a fragment")

/-- The text of a condition, if it is not an empty predicate. -/
def predicate? (registry : Resolvers) (expression : Expression)
    (own : Resolution Resolved) : Resolution (Option String) := do
  match ← registry.dispatch expression .fragment own with
  | .fragment text => return some text
  | .emptyPredicate => return none
  | .projection _ => Resolution.fail (.build "projection returned for a predicate")

/-- The text of a condition that must not be an empty predicate. -/
def predicate (registry : Resolvers) (expression : Expression)
    (own : Resolution Resolved) : Resolution String := do
  match ← registry.predicate? expression own with
  | some text => return text
  | none => Resolution.fail .emptyPredicate

/-- The plan of a projection. -/
def plan (registry : Resolvers) (expression : Expression)
    (own : Resolution Resolved) : Resolution ProjectionPlan := do
  match ← registry.dispatch expression .projection own with
  | .projection plan => return plan
  | _ => Resolution.fail (.build "fragment returned for a projection")

end Resolvers
end ObjectQuery
