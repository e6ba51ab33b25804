import ObjectQuery.Catalog.Counting

/-!
# Catalogs

A catalog maps logical names to entities. It may change by being asked: a counting
catalog counts the question, and a cache remembers the answer under the scope and
name that were asked for. A question that fails is not remembered. Every question
gives back the catalog to ask next.
-/

namespace ObjectQuery

/-- The answers of a catalog that a host keeps itself. -/
structure EntitySource where
  resolve : String → String → Except CatalogError Entity
  entities : List Entity

/-- The remembered answers of a cache, by scope and name. -/
abbrev RememberedEntities := List ((String × String) × Entity)

/-- A catalog. -/
inductive Catalog where
  | fixed (catalog : FixedCatalog)
  | counting (catalog : CountingCatalog)
  | hosted (source : EntitySource)
  | cached (entries : RememberedEntities) (inner : Catalog)

namespace Catalog

/-- A catalog behind an empty cache. -/
def withCache (catalog : Catalog) : Catalog :=
  .cached [] catalog

/-- The entity that a name stands for in a scope, and the catalog after the question. -/
def resolve (catalog : Catalog) (scope name : String) :
    Except CatalogError Entity × Catalog :=
  match catalog with
  | .fixed source => (source.resolve scope name, .fixed source)
  | .counting source =>
      let (answer, asked) := source.resolve scope name
      (answer, .counting asked)
  | .hosted source => (source.resolve scope name, .hosted source)
  | .cached entries inner =>
      match Table.find? (scope, name) entries with
      | some entity => (.ok entity, .cached entries inner)
      | none =>
          match inner.resolve scope name with
          | (.ok entity, asked) =>
              (.ok entity, .cached (Table.put (scope, name) entity entries) asked)
          | (.error error, asked) => (.error error, .cached entries asked)

/-- Every entity, in the order of lists. -/
def list : Catalog → List Entity
  | .fixed source => source.list
  | .counting source => source.list
  | .hosted source => source.entities
  | .cached _ inner => inner.list

/-- The remembered answers, if there is a cache. -/
def snapshot? : Catalog → Option RememberedEntities
  | .cached entries _ => some entries
  | _ => none

/-- The catalog with an empty cache; without a cache it stays. -/
def invalidate : Catalog → Catalog
  | .cached _ inner => .cached [] inner
  | other => other

/-- The catalog behind a cache, else the catalog itself. -/
def inner : Catalog → Catalog
  | .cached _ inner => inner
  | other => other

end Catalog
end ObjectQuery
