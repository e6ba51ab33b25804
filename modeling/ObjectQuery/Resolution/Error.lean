import ObjectQuery.Catalog.Entity
import ObjectQuery.Expression.Basic
import ObjectQuery.Platform

/-!
# Errors of resolution

Why a node cannot be written, or the parts of a statement not put together. Every
error ends the compilation it arises in. What the platform cannot express is told
apart from what is wrong, so that a host may try another shape.
-/

namespace ObjectQuery

/-- What a resolver is asked for. -/
inductive OutputKind where
  /-- A piece of statement text. -/
  | fragment
  /-- A select list with the shape and reading of its rows. -/
  | projection
  deriving DecidableEq, Repr

/-- The name of an output. -/
def OutputKind.name : OutputKind → String
  | .fragment => "fragment"
  | .projection => "projection"

/-- How bad an error is. -/
inductive Severity where
  /-- Another shape may do. -/
  | warning
  /-- The description of the operation is wrong. -/
  | error
  /-- The statement is put together wrongly. -/
  | bug
  deriving DecidableEq, Repr

/-- Why resolution fails. -/
inductive ResolutionError where
  /-- No resolver gives the wanted output for a kind of node. -/
  | unresolvable (kind : String) (output : OutputKind)
  /-- A node rejects its own state. -/
  | invalid (fault : NodeFault)
  /-- A valid construct without a form on the platform. -/
  | unsupported (construct platform : String)
  /-- A target that no visible scope binds. -/
  | missingTarget (name : String)
  /-- A joined target that is bound without an alias. -/
  | joinWithoutAlias (name : String)
  /-- A conjunction or disjunction without conditions where text is needed. -/
  | emptyPredicate
  /-- An alias given twice in one statement. -/
  | duplicateAlias (aliasName : String)
  /-- Sub-queries nested beyond the limit. -/
  | nestingLimit (depth limit : Nat)
  /-- A target name that the catalog does not map. -/
  | catalog (error : CatalogError)
  /-- Clauses in a wrong order, or missing. -/
  | build (reason : String)
  deriving DecidableEq, Repr

namespace ResolutionError

/-- A construct without a form on a platform. -/
def unsupportedOn (platform : Platform) (construct : String) : ResolutionError :=
  .unsupported construct platform.name

/-- What is said of missing state, where that is the error. -/
def missingState? : ResolutionError → Option String
  | .missingTarget name => some ("missing context data target " ++ name)
  | .joinWithoutAlias name => some ("joined target " ++ name ++ " has no alias")
  | _ => none

/-- What the nesting limit bounds. -/
def nestingContext : String :=
  "sub-query resolution"

/-- The message of an error. -/
def message : ResolutionError → String
  | .unresolvable kind output =>
      "Unresolvable " ++ kind ++ " expression: no resolver produces a " ++ output.name
  | .invalid fault => fault.message
  | .unsupported construct platform => "Unsupported on " ++ platform ++ ": " ++ construct
  | .missingTarget name => "Configuration error: missing context data target " ++ name
  | .joinWithoutAlias name => "Configuration error: joined target " ++ name ++ " has no alias"
  | .emptyPredicate => "Empty predicate: an AND/OR filter must have at least one child"
  | .duplicateAlias aliasName => "Duplicate alias '" ++ aliasName ++ "'"
  | .nestingLimit depth limit =>
      "Recursion limit exceeded: " ++ nestingContext ++ " (depth: " ++ toString depth ++
        ", limit: " ++ toString limit ++ ")"
  | .catalog error => error.message
  | .build reason => "Build error: " ++ reason

/-- Whether another shape may do. -/
def isUnsupported : ResolutionError → Bool
  | .unsupported _ _ => true
  | _ => false

/-- How bad an error is. -/
def severity : ResolutionError → Severity
  | .unsupported _ _ => .warning
  | .missingTarget _ | .joinWithoutAlias _ | .nestingLimit _ _ | .build _ => .bug
  | .unresolvable _ _ | .invalid _ | .emptyPredicate | .duplicateAlias _ | .catalog _ => .error

end ResolutionError
end ObjectQuery
