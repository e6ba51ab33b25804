import ObjectQuery.Codec.Value
import ObjectQuery.Codec.Words
import ObjectQuery.FunctionSpelling

/-!
# Platforms and function spellings in JSON

A platform is a word. The spelling of a function is a record whose description may be
missing.
-/

namespace ObjectQuery

/-- A platform in JSON. -/
def Platform.toJson : Platform → Json
  | .hibernate => .string "hibernate"
  | .eclipseLink => .string "eclipse_link"
  | .openJpa => .string "open_jpa"
  | .dataNucleus => .string "data_nucleus"
  | .unknown => .string "unknown"

/-- The platform that a document writes. -/
def Platform.ofJson? (json : Json) : Option Platform :=
  match json.unitVariant? with
  | some "hibernate" => some .hibernate
  | some "eclipse_link" => some .eclipseLink
  | some "open_jpa" => some .openJpa
  | some "data_nucleus" => some .dataNucleus
  | some "unknown" => some .unknown
  | _ => none

/-- A type of function in JSON. -/
def FunctionClass.toJson : FunctionClass → Json
  | .scalar => .string "Scalar"
  | .aggregate => .string "Aggregate"
  | .temporal => .string "Temporal"

/-- The type of function that a document writes. -/
def FunctionClass.ofJson? (json : Json) : Option FunctionClass :=
  match json.unitVariant? with
  | some "Scalar" => some .scalar
  | some "Aggregate" => some .aggregate
  | some "Temporal" => some .temporal
  | _ => none

namespace FunctionSpelling

/-- A spelling in JSON. -/
def toJson (spelling : FunctionSpelling) : Json :=
  .object
    [("name", .string spelling.name),
      ("kind", spelling.kind.toJson),
      ("return_type", spelling.returnType.toJson),
      ("function_type", spelling.functionType.toJson),
      ("template", .string spelling.template),
      ("description", .ofText? spelling.description)]

/-- The names of a spelling's fields. -/
def fieldNames : List String :=
  ["name", "kind", "return_type", "function_type", "template", "description"]

/-- The spelling that a document describes. -/
def ofJson? (json : Json) : Option FunctionSpelling := do
  let fields ← json.record? fieldNames
  let name ← Json.required? Json.text? "name" fields
  let kind ← Json.required? FunctionKind.ofJson? "kind" fields
  let returnType ← Json.required? ValueType.ofJson? "return_type" fields
  let functionType ← Json.required? FunctionClass.ofJson? "function_type" fields
  let template ← Json.required? Json.text? "template" fields
  let description ← Json.optional? Json.text? "description" fields
  return ⟨name, kind, returnType, functionType, template, description⟩

end FunctionSpelling
end ObjectQuery
