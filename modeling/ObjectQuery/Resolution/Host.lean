import ObjectQuery.Resolution.BuiltIn

/-!
# Resolvers that resolve other nodes

A resolver of the host may have other nodes resolved for its answer, through the registry that
asks it. It is given as a function of what the registry lends it for that. The registry lends
its own resolution, in which the resolvers are lent the same again, for as many calls inside
each other as are granted. What a call beyond that gives is left open.
-/

namespace ObjectQuery

/-- How any node is resolved to an output. -/
abbrev Lending : Type :=
  Expression → OutputKind → Resolution Resolved

/-- A resolver of the host that may have other nodes resolved. -/
structure HostResolver where
  name : String
  kind : ExpressionKind
  output : OutputKind
  answer : Lending → Expression → Resolution (Option Resolved)

/-- The resolver with what it is lent. -/
def HostResolver.closed (resolver : HostResolver) (lending : Lending) : Resolver :=
  ⟨resolver.name, resolver.kind, resolver.output, resolver.answer lending⟩

/-- The lists of the host in which a resolver may stand. -/
inductive HostList where
  | user
  | fallback
  deriving DecidableEq, Repr

/-- The resolvers for a statement, those of the host with other nodes to resolve. -/
structure HostResolvers where
  user : List HostResolver
  /-- Whether the library's own resolvers take part. -/
  builtIn : Bool
  fallback : List HostResolver

namespace HostResolvers

/-- The registry with a resolver at a position of a list; there it comes last if the list is
shorter. -/
def insert (registry : HostResolvers) (list : HostList) (position : Nat)
    (resolver : HostResolver) : HostResolvers :=
  match list with
  | .user =>
      { registry with
        user := registry.user.take position ++ resolver :: registry.user.drop position }
  | .fallback =>
      { registry with
        fallback := registry.fallback.take position ++ resolver :: registry.fallback.drop position }

/-- The registry whose resolvers are all lent the same. -/
def closed (registry : HostResolvers) (lending : Lending) : Resolvers where
  user := registry.user.map (·.closed lending)
  builtIn := registry.builtIn
  fallback := registry.fallback.map (·.closed lending)

/-- What the registry lends its resolvers where a number of calls inside each other is granted. -/
def lent (registry : HostResolvers) (beyond : Lending) : Nat → Lending
  | 0 => beyond
  | calls + 1 => (registry.closed (registry.lent beyond calls)).resolve

/-- The registry that grants a number of calls inside each other. -/
def granting (registry : HostResolvers) (beyond : Lending) (calls : Nat) : Resolvers :=
  registry.closed (registry.lent beyond calls)

end HostResolvers
end ObjectQuery
