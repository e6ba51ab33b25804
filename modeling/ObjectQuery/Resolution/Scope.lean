import ObjectQuery.Catalog.Entity
import ObjectQuery.Table
import ObjectQuery.Text.Ascii
import ObjectQuery.Text.Identifier

/-!
# Scopes

A scope is one select, update or delete of a statement. It holds the targets bound
there, in order, and counts how often each alias base has been tried. A target is
found by its alias, else by its logical name, else by its entity.
-/

namespace ObjectQuery

/-- Where the targets of a scope get their aliases. -/
inductive AliasPolicy where
  /-- Only from the operation. -/
  | default
  /-- From the operation, else made up. -/
  | auto
  /-- Nowhere: the statement cannot alias its targets. -/
  | unsupported
  deriving DecidableEq, Repr, Inhabited

/-- A target bound in a scope. -/
structure BoundTarget where
  /-- The logical name in the operation. -/
  name : String
  /-- The entity name in the statement. -/
  entity : String
  aliasName : Option String
  /-- The attributes that the catalog lists; none when it was not asked. -/
  attributes : List Attribute
  deriving DecidableEq, Repr

namespace BoundTarget

/-- How the statement speaks of the target: by alias, else by entity. -/
def reference (binding : BoundTarget) : String :=
  binding.aliasName.getD binding.entity

/-- A property of the target, after its alias if it has one. -/
def qualify (binding : BoundTarget) (property : String) : String :=
  match binding.aliasName with
  | some aliasName => aliasName ++ "." ++ property
  | none => property

/-- How the target is declared: its entity, and its alias if it has one. -/
def declaration (binding : BoundTarget) : String :=
  match binding.aliasName with
  | some aliasName => binding.entity ++ " " ++ aliasName
  | none => binding.entity

end BoundTarget

/-- One select, update or delete with its targets. -/
structure Scope where
  /-- The number that tells the scopes of a statement apart. -/
  sequence : Nat
  aliasMode : AliasPolicy
  bindings : List BoundTarget
  /-- How many aliases have been tried for each base. -/
  aliasCounts : List (String × Nat)
  deriving DecidableEq, Repr

namespace Scope

/-- A scope without targets. -/
def empty (sequence : Nat) (aliasMode : AliasPolicy) : Scope :=
  ⟨sequence, aliasMode, [], []⟩

/-- The target that a qualifier names: by alias, by logical name, or by entity. -/
def find? (scope : Scope) (qualifier : String) : Option BoundTarget :=
  (scope.bindings.find? fun binding => binding.aliasName = some qualifier).or
    ((scope.bindings.find? fun binding => binding.name = qualifier).or
      (scope.bindings.find? fun binding => binding.entity = qualifier))

/-- How many aliases have been tried for a base. -/
def aliasCount (scope : Scope) (base : String) : Nat :=
  (Table.find? base scope.aliasCounts).getD 0

end Scope

/-- A small letter, digit or underscore for any character. -/
def aliasCharacter (character : Char) : Char :=
  let small := character.toLower
  if Text.isNameCharacter small then small else '_'

/--
The start of the aliases made up for a target: at most four characters of the last
part of its name, with a letter put before a leading digit.
-/
def aliasStem (name : String) : String :=
  match (Text.lastSegment name).map aliasCharacter with
  | [] => "t"
  | first :: rest =>
      let characters := if first.isDigit then 't' :: first :: rest else first :: rest
      String.ofList (characters.take 4)

/-- The alias made up from a base, the number of its scope, and a count. -/
def generatedAlias (base : String) (sequence count : Nat) : String :=
  base ++ "_" ++ toString sequence ++ "_" ++ toString count

end ObjectQuery
