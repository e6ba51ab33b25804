import ObjectQuery.Catalog.Basic
import ObjectQuery.Dialect
import ObjectQuery.Resolution.Parameter
import ObjectQuery.Resolution.Scope

/-!
# The context of a statement

While a statement is written, its context holds the scope in hand and the scopes
around it, innermost first. Parameters, used aliases and the counter of scopes
belong to the whole statement; targets and alias counts belong to their scope.

A qualifier is looked up from the scope in hand outwards, and not beyond a scope
whose statement cannot alias its targets.
-/

namespace ObjectQuery

/-- What stays the same while a statement is written. -/
structure Settings where
  dialect : Dialect
  /-- The scope in which the catalog is asked. -/
  catalogScope : String
  /-- How deep sub-queries may be nested. -/
  depthLimit : Nat

/-- The usual limit on the nesting of sub-queries. -/
def standardDepthLimit : Nat :=
  32

/-- What changes while a statement is written. -/
structure Context where
  current : Scope
  /-- The scopes around the current one, innermost first. -/
  enclosing : List Scope
  parameters : ParameterTable
  /-- Every alias used so far, in order of allocation. -/
  aliases : List String
  /-- The number of the next scope. -/
  nextSequence : Nat
  /-- The type expected of constants. -/
  hint : Option ValueType
  catalog : Option Catalog

namespace Context

/-- The context at the start of a statement. -/
def root (aliasMode : AliasPolicy) (catalog : Option Catalog) : Context :=
  ⟨Scope.empty 0 aliasMode, [], ParameterTable.empty, [], 1, none, catalog⟩

/-- How many sub-queries are open. -/
def depth (context : Context) : Nat :=
  context.enclosing.length

/-- Whether no sub-query is open. -/
def isRoot (context : Context) : Bool :=
  context.enclosing.isEmpty

/-- The first target that a list of scopes, innermost first, shows under a qualifier. -/
def findIn (qualifier : String) : List Scope → Option BoundTarget
  | [] => none
  | scope :: outer =>
      match scope.find? qualifier with
      | some binding => some binding
      | none => if scope.aliasMode = .unsupported then none else findIn qualifier outer

/-- The target that a qualifier names. -/
def find? (context : Context) (qualifier : String) : Option BoundTarget :=
  findIn qualifier (context.current :: context.enclosing)

/-- The target of the current scope that was bound first. -/
def rootTarget? (context : Context) : Option BoundTarget :=
  context.current.bindings.head?

/-- The first count from the given one on whose alias is not used yet. -/
def freshCount (context : Context) (base : String) : Nat :=
  let start := context.current.aliasCount base
  let counts := List.range' start (context.aliases.length + 1)
  (counts.find? fun count =>
    !context.aliases.contains (generatedAlias base context.current.sequence count)).getD start

/-- The context with one more used alias. -/
def useAlias (context : Context) (aliasName : String) : Context :=
  { context with aliases := context.aliases ++ [aliasName] }

/-- The context with one more target bound in the current scope. -/
def bind (context : Context) (binding : BoundTarget) : Context :=
  { context with
    current := { context.current with bindings := context.current.bindings ++ [binding] } }

/-- The context with the counts of a base written in the current scope. -/
def countAlias (context : Context) (base : String) (count : Nat) : Context :=
  { context with
    current :=
      { context.current with
        aliasCounts := Table.put base count context.current.aliasCounts } }

/-- The context inside a sub-query. -/
def enter (context : Context) (aliasMode : AliasPolicy) : Context :=
  { context with
    current := Scope.empty context.nextSequence aliasMode
    enclosing := context.current :: context.enclosing
    nextSequence := context.nextSequence + 1 }

/-- The context after a sub-query, in the scopes of the context before it. -/
def leave (after before : Context) : Context :=
  { after with
    current := before.current
    enclosing := before.enclosing }

end Context
end ObjectQuery
