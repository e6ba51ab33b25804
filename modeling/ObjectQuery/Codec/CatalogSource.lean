import ObjectQuery.Codec.CatalogYaml
import ObjectQuery.Sample

/-!
# Described catalogs

A catalog may be described by where it comes from: listed definitions, a text in YAML
or JSON, the sample schema, or a counting catalog that starts from a small schema of
its own. A description may ask for a cache in front.
-/

namespace ObjectQuery
namespace Catalog

/-- The items of a field that may be missing or null, each read alike. -/
def listed? {content : Type} (decode : Json → Option content) (name : String)
    (fields : List (String × Json)) : Option (List content) :=
  (Json.optional? (Json.list? decode) name fields).map fun found => found.getD []

/-- A scope with an entity that it sees. -/
def scopedEntity? : Json → Option (String × Entity)
  | .array [.string scope, entity] => (Entity.ofJson? entity).map fun found => (scope, found)
  | _ => none

/-- The catalog of listed definitions; of two of one name the later counts. -/
def ofLists? (fields : List (String × Json)) : Option Catalog := do
  let everywhere ← listed? Entity.ofJson? "entities" fields
  let inScopes ← listed? scopedEntity? "scoped" fields
  let catalog := everywhere.foldl FixedCatalog.withEntity FixedCatalog.empty
  return .fixed (inScopes.foldl (fun catalog entry =>
    catalog.withScopedEntity entry.1 entry.2) catalog)

/-- The counting catalog of listed entities, with its own schema unless that is not wanted. -/
def ofCounted? (fields : List (String × Json)) : Option Catalog := do
  let standard ← Json.optional? Json.bool? "standard" fields
  let entities ← listed? Entity.ofJson? "entities" fields
  let start :=
    if standard.getD true then
      CountingCatalog.empty.withShopSchema
    else
      CountingCatalog.empty
  return .counting (entities.foldl CountingCatalog.withEntity start)

/-- The catalog of a source. -/
def ofSource? (source : String) (fields : List (String × Json)) :
    Option (Except CatalogSourceError Catalog) :=
  let ofText (read : String → Except CatalogSourceError FixedCatalog) :=
    (Json.required? Json.text? "text" fields).map fun text => (read text).map .fixed
  match source with
  | "static" => (ofLists? fields).map .ok
  | "yaml" => ofText FixedCatalog.ofYamlText
  | "json" => ofText FixedCatalog.ofJsonText
  | "fixture" => some (.ok (.fixed Sample.catalog))
  | "mock" => (ofCounted? fields).map .ok
  | _ => none

/-- The catalog that a document describes. -/
def ofDescription? (json : Json) : Option (Except CatalogSourceError Catalog) := do
  let fields ← json.fields?
  let source ← Json.required? Json.text? "source" fields
  let cached ← Json.optional? Json.bool? "cached" fields
  let outcome ← ofSource? source fields
  return outcome.map fun catalog => if cached.getD false then catalog.withCache else catalog

end Catalog
end ObjectQuery
