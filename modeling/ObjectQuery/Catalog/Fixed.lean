import ObjectQuery.Catalog.Entity
import ObjectQuery.Table
import ObjectQuery.Text.Ascii
import ObjectQuery.Text.Blank

/-!
# Catalogs of fixed definitions

A definition is global or belongs to one scope. A name is looked up among the
definitions of its scope, then among the global ones, and last among the global
ones without regard to the case of letters, by logical name or entity name.
-/

namespace ObjectQuery

/-- Entities by logical name, and entities by scope and logical name. -/
structure FixedCatalog where
  globalEntities : List (String × Entity)
  scopedEntities : List ((String × String) × Entity)
  deriving Inhabited, DecidableEq

/-- The order of entities in lists: by logical name, then by entity name. -/
def Entity.precedes (left right : Entity) : Bool :=
  left.name < right.name || (left.name = right.name && left.entityName ≤ right.entityName)

namespace FixedCatalog

/-- A catalog without definitions. -/
def empty : FixedCatalog :=
  ⟨[], []⟩

/-- The catalog with an entity that every scope sees. -/
def withEntity (catalog : FixedCatalog) (entity : Entity) : FixedCatalog :=
  { catalog with globalEntities := Table.put entity.name entity catalog.globalEntities }

/-- The catalog with an entity that one scope sees. -/
def withScopedEntity (catalog : FixedCatalog) (scope : String) (entity : Entity) :
    FixedCatalog :=
  { catalog with scopedEntities := Table.put (scope, entity.name) entity catalog.scopedEntities }

/-- Both names of an entity must show something. -/
def requireNames (entity : Entity) : Except CatalogError Unit :=
  if Text.isBlank entity.name || Text.isBlank entity.entityName then
    .error (.configuration ("entity '" ++ entity.name ++ "' has an empty name"))
  else
    .ok ()

/-- A catalog with further global definitions, none of which may be there already. -/
def addGlobal (catalog : FixedCatalog) : List Entity → Except CatalogError FixedCatalog
  | [] => .ok catalog
  | entity :: rest => do
      requireNames entity
      if (Table.find? entity.name catalog.globalEntities).isSome then
        .error (.configuration ("entity '" ++ entity.name ++ "' is defined twice"))
      else
        addGlobal (catalog.withEntity entity) rest

/-- A catalog with further definitions in a scope. -/
def addScoped (catalog : FixedCatalog) (scope : String) :
    List Entity → Except CatalogError FixedCatalog
  | [] => .ok catalog
  | entity :: rest => do
      requireNames entity
      addScoped (catalog.withScopedEntity scope entity) scope rest

/-- A catalog with the definitions of further scopes. -/
def addScopes (catalog : FixedCatalog) :
    List (String × List Entity) → Except CatalogError FixedCatalog
  | [] => .ok catalog
  | (scope, entities) :: rest => do
      let extended ← addScoped catalog scope entities
      addScopes extended rest

/-- The catalog of global and scoped definitions. -/
def ofDefinitions (entities : List Entity) (scopes : List (String × List Entity)) :
    Except CatalogError FixedCatalog := do
  let catalog ← addGlobal empty entities
  addScopes catalog scopes

/-- The number of definitions. -/
def size (catalog : FixedCatalog) : Nat :=
  catalog.globalEntities.length + catalog.scopedEntities.length

/-- Whether an entity goes by a name when the case of letters is left aside. -/
def goesBy (name : String) (entity : Entity) : Bool :=
  Text.equalIgnoringCase entity.name name || Text.equalIgnoringCase entity.entityName name

/-- The entity that a name stands for in a scope. -/
def find? (catalog : FixedCatalog) (scope name : String) : Option Entity :=
  (Table.find? (scope, name) catalog.scopedEntities).or
    ((Table.find? name catalog.globalEntities).or
      ((catalog.globalEntities.map Prod.snd).find? (goesBy name)))

/-- The entity that a name stands for in a scope, or that there is none. -/
def resolve (catalog : FixedCatalog) (scope name : String) : Except CatalogError Entity :=
  match catalog.find? scope name with
  | some entity => .ok entity
  | none => .error (.entityNotFound name scope)

/-- Every definition, in the order of lists. -/
def list (catalog : FixedCatalog) : List Entity :=
  let entities := catalog.globalEntities.map Prod.snd ++ catalog.scopedEntities.map Prod.snd
  entities.mergeSort Entity.precedes

end FixedCatalog
end ObjectQuery
