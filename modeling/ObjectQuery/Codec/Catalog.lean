import ObjectQuery.Catalog.Basic
import ObjectQuery.Codec.Value
import ObjectQuery.Json.Reader

/-!
# Catalogs in JSON

An entity is a record whose attributes may be left out, and so may be whether an
attribute identifies. A catalog document holds the entities that every scope sees and
those of single scopes; in its text no record may name a field twice.
-/

namespace ObjectQuery

namespace Attribute

/-- An attribute in JSON. -/
def toJson (found : Attribute) : Json :=
  .object
    [("name", .string found.name),
      ("value_type", found.valueType.toJson),
      ("is_id", .bool found.isId)]

/-- The names of an attribute's fields; the last may be left out. -/
def fieldNames : List String :=
  ["name", "value_type", "is_id"]

/-- The attribute that a document describes. -/
def ofJson? (json : Json) : Option Attribute := do
  let fields ← json.distinctRecord? fieldNames 2
  let name ← Json.required? Json.text? "name" fields
  let valueType ← Json.required? ValueType.ofJson? "value_type" fields
  let isId ← Json.withDefault? Json.bool? false "is_id" fields
  return ⟨name, valueType, isId⟩

end Attribute

namespace Entity

/-- An entity in JSON. -/
def toJson (entity : Entity) : Json :=
  .object
    [("name", .string entity.name),
      ("entity_name", .string entity.entityName),
      ("attributes", .array (entity.attributes.map Attribute.toJson))]

/-- The names of an entity's fields; the last may be left out. -/
def fieldNames : List String :=
  ["name", "entity_name", "attributes"]

/-- The entity that a document describes. -/
def ofJson? (json : Json) : Option Entity := do
  let fields ← json.distinctRecord? fieldNames 2
  let name ← Json.required? Json.text? "name" fields
  let entityName ← Json.required? Json.text? "entity_name" fields
  let attributes ← Json.withDefault? (Json.list? Attribute.ofJson?) [] "attributes" fields
  return ⟨name, entityName, attributes⟩

end Entity

/-- The definitions of a catalog document: for every scope, and for single scopes. -/
structure CatalogDefinitions where
  entities : List Entity
  scopes : List (String × List Entity)

/-- Why the text of a catalog gives no catalog. -/
inductive CatalogSourceError where
  /-- The text is no document of definitions. -/
  | malformed
  /-- A definition is rejected. -/
  | rejected (error : CatalogError)
  deriving DecidableEq, Repr

namespace CatalogDefinitions

/-- The names of the parts of a catalog document, both of which may be left out. -/
def fieldNames : List String :=
  ["entities", "scoped"]

/-- The definitions of one scope. -/
def scopeOf? (field : String × Json) : Option (String × List Entity) :=
  (Json.list? Entity.ofJson? field.2).map fun entities => (field.1, entities)

/-- The definitions of scopes; of two for one scope the later counts. -/
def scopesOf? (json : Json) : Option (List (String × List Entity)) := do
  let fields ← json.fields?
  let scopes ← fields.mapM scopeOf?
  return scopes.foldl (fun table scope => Table.put scope.1 scope.2 table) []

/-- The definitions that a document describes. -/
def ofJson? (json : Json) : Option CatalogDefinitions := do
  let fields ← json.distinctRecord? fieldNames 0
  let entities ← Json.withDefault? (Json.list? Entity.ofJson?) [] "entities" fields
  let scopes ← Json.withDefault? scopesOf? [] "scoped" fields
  return ⟨entities, scopes⟩

/-- The catalog of the definitions. -/
def toCatalog (definitions : CatalogDefinitions) : Except CatalogSourceError FixedCatalog :=
  match FixedCatalog.ofDefinitions definitions.entities definitions.scopes with
  | .ok catalog => .ok catalog
  | .error error => .error (.rejected error)

/-- How deep the containers of a catalog's text may be nested. -/
def nestingLimit : Nat :=
  127

end CatalogDefinitions

/-- The catalog that a JSON text defines. -/
def FixedCatalog.ofJsonText (text : String) : Except CatalogSourceError FixedCatalog :=
  match (Json.parseWithin? CatalogDefinitions.nestingLimit text).bind
    CatalogDefinitions.ofJson? with
  | some definitions => definitions.toCatalog
  | none => .error .malformed

end ObjectQuery
