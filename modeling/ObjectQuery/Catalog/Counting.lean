import ObjectQuery.Catalog.Fixed

/-!
# Counting catalogs

A catalog that knows entities by their exact logical name in every scope, and
counts how often it has been asked.
-/

namespace ObjectQuery

/-- Entities by logical name, and the number of questions so far. -/
structure CountingCatalog where
  entities : List (String × Entity)
  lookups : Nat
  deriving Inhabited

namespace CountingCatalog

/-- A catalog without entities that has not been asked. -/
def empty : CountingCatalog :=
  ⟨[], 0⟩

/-- The catalog with one more entity. -/
def withEntity (catalog : CountingCatalog) (entity : Entity) : CountingCatalog :=
  { catalog with entities := Table.put entity.name entity catalog.entities }

/-- The entity with a name; this question is not counted. -/
def get? (catalog : CountingCatalog) (name : String) : Option Entity :=
  Table.find? name catalog.entities

/-- The entity with a name, or that there is none, and the catalog after the question. -/
def resolve (catalog : CountingCatalog) (scope name : String) :
    Except CatalogError Entity × CountingCatalog :=
  let answer : Except CatalogError Entity :=
    match catalog.get? name with
    | some entity => .ok entity
    | none => .error (.entityNotFound name scope)
  (answer, { catalog with lookups := catalog.lookups + 1 })

/-- Every entity, by logical name. -/
def list (catalog : CountingCatalog) : List Entity :=
  (catalog.entities.map Prod.snd).mergeSort fun left right => left.name ≤ right.name

/-- A plain attribute. -/
def plain (name : String) (valueType : ValueType) : Attribute :=
  ⟨name, valueType, false⟩

/-- An identifying attribute. -/
def identifier (name : String) (valueType : ValueType) : Attribute :=
  ⟨name, valueType, true⟩

/-- The catalog with a small schema of customers, orders and products. -/
def withShopSchema (catalog : CountingCatalog) : CountingCatalog :=
  ((catalog.withEntity
    ⟨"customer", "Customer",
      [identifier "id" .integer, plain "name" .string, plain "email" .string,
        plain "vip" .boolean]⟩).withEntity
    ⟨"order", "PurchaseOrder",
      [identifier "id" .integer, plain "customerId" .integer, plain "status" .string,
        plain "total" .decimal, plain "placedOn" .date]⟩).withEntity
    ⟨"product", "Product",
      [identifier "id" .integer, plain "name" .string, plain "price" .float]⟩

end CountingCatalog
end ObjectQuery
