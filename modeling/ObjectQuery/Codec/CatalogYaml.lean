import ObjectQuery.Codec.Catalog
import ObjectQuery.Yaml.Reader

/-!
# Catalogs in YAML

A catalog document in YAML has the same parts as in JSON. Any scalar is a text, so
names need no quotes; a value that was left out is an empty list; and only value types
without content can be written. No mapping of a definition may give a field twice.
-/

namespace ObjectQuery

namespace Yaml

/-- The entries of a definition that gives none of the named fields twice. -/
def definition? (names : List String) (yaml : Yaml) : Option (List (String × Yaml)) := do
  let entries ← yaml.entries?
  let known := (entries.map Prod.fst).filter names.contains
  if known.eraseDups.length = known.length then some entries else none

/-- A field that must be there. -/
def required? {content : Type} (decode : Yaml → Option content) (name : String)
    (entries : List (String × Yaml)) : Option content :=
  (Table.find? name entries).bind decode

/-- A field that may be left out, with the content it then has. -/
def withDefault? {content : Type} (decode : Yaml → Option content) (otherwise : content)
    (name : String) (entries : List (String × Yaml)) : Option content :=
  match Table.find? name entries with
  | none => some otherwise
  | some yaml => decode yaml

end Yaml

/-- The value type that a scalar names. -/
def ValueType.ofYaml? (yaml : Yaml) : Option ValueType :=
  yaml.text?.bind named?

/-- The attribute that a document describes. -/
def Attribute.ofYaml? (yaml : Yaml) : Option Attribute := do
  let entries ← yaml.definition? fieldNames
  let name ← Yaml.required? Yaml.text? "name" entries
  let valueType ← Yaml.required? ValueType.ofYaml? "value_type" entries
  let isId ← Yaml.withDefault? Yaml.bool? false "is_id" entries
  return ⟨name, valueType, isId⟩

/-- The entity that a document describes. -/
def Entity.ofYaml? (yaml : Yaml) : Option Entity := do
  let entries ← yaml.definition? fieldNames
  let name ← Yaml.required? Yaml.text? "name" entries
  let entityName ← Yaml.required? Yaml.text? "entity_name" entries
  let attributes ← Yaml.withDefault? (Yaml.list? Attribute.ofYaml?) [] "attributes" entries
  return ⟨name, entityName, attributes⟩

namespace CatalogDefinitions

/-- The definitions of one scope. -/
def scopeOfYaml? (entry : String × Yaml) : Option (String × List Entity) :=
  (Yaml.list? Entity.ofYaml? entry.2).map fun entities => (entry.1, entities)

/-- The definitions of scopes; of two for one scope the later counts. -/
def scopesOfYaml? (yaml : Yaml) : Option (List (String × List Entity)) := do
  let entries ← yaml.entries?
  let scopes ← entries.mapM scopeOfYaml?
  return scopes.foldl (fun table scope => Table.put scope.1 scope.2 table) []

/-- The definitions that a document describes. -/
def ofYaml? (yaml : Yaml) : Option CatalogDefinitions := do
  let entries ← yaml.definition? fieldNames
  let entities ← Yaml.withDefault? (Yaml.list? Entity.ofYaml?) [] "entities" entries
  let scopes ← Yaml.withDefault? scopesOfYaml? [] "scoped" entries
  return ⟨entities, scopes⟩

end CatalogDefinitions

/-- The catalog that a YAML text defines. -/
def FixedCatalog.ofYamlText (text : String) : Except CatalogSourceError FixedCatalog :=
  match (Yaml.parse? text).bind CatalogDefinitions.ofYaml? with
  | some definitions => definitions.toCatalog
  | none => .error .malformed

end ObjectQuery
