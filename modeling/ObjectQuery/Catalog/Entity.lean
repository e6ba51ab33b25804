import ObjectQuery.Value.Basic

/-!
# Entities

What a catalog knows of the entity behind a logical name: the name that stands in
statements, and the attributes in the order of their declaration.
-/

namespace ObjectQuery

/-- A property of an entity. -/
structure Attribute where
  name : String
  valueType : ValueType
  /-- Whether the attribute is part of the identifier. -/
  isId : Bool
  deriving DecidableEq, Repr

/-- A persistent entity under its logical name. -/
structure Entity where
  name : String
  /-- The name that stands in statements. -/
  entityName : String
  attributes : List Attribute
  deriving DecidableEq, Repr

namespace Entity

/-- An entity with the same name in statements, and no attributes. -/
def named (name : String) : Entity :=
  ⟨name, name, []⟩

/-- The attribute with a name. -/
def attribute? (entity : Entity) (name : String) : Option Attribute :=
  entity.attributes.find? fun found => found.name = name

/-- The attributes of the identifier. -/
def identifyingAttributes (entity : Entity) : List Attribute :=
  entity.attributes.filter Attribute.isId

/-- The entity with one more plain attribute. -/
def withAttribute (entity : Entity) (name : String) (valueType : ValueType) : Entity :=
  { entity with attributes := entity.attributes ++ [⟨name, valueType, false⟩] }

end Entity

/-- Why a catalog gives no entity, or is no catalog. -/
inductive CatalogError where
  | entityNotFound (name scope : String)
  | configuration (reason : String)
  deriving DecidableEq, Repr

/-- The message of a catalog error. -/
def CatalogError.message : CatalogError → String
  | .entityNotFound name scope => "Entity '" ++ name ++ "' not found in scope '" ++ scope ++ "'"
  | .configuration reason => "Invalid catalog configuration: " ++ reason

end ObjectQuery
