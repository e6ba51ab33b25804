import ObjectQuery.Codec.NodeReader
import ObjectQuery.Codec.NodeWriter

/-!
# Operations in JSON

An operation is a record of its clauses. Its assignments are pairs of a path and a
value, and its hints an object of texts.
-/

namespace ObjectQuery

/-- A number that may be missing. -/
def Json.ofWord? : Option UInt64 → Json
  | some number => .ofNat number.toNat
  | none => .null

/-- Hints in JSON. -/
def Hints.toJson (hints : Hints) : Json :=
  .object (hints.entries.map fun (name, text) => (name, .string text))

/-- One hint of a document. -/
def Hints.entryOf? (field : String × Json) : Option (String × String) :=
  field.2.text?.map fun text => (field.1, text)

/-- The hints that a document writes. -/
def Hints.ofJson? (json : Json) : Option Hints := do
  let fields ← json.fields?
  let entries ← fields.mapM entryOf?
  return ofEntries entries

namespace Operation

/-- An assignment in JSON. -/
def assignmentToJson (assignment : Path × Expression) : Json :=
  .array [assignment.1.toJson, assignment.2.toJson]

/-- The assignment that a document writes. -/
def assignmentOf? : Json → Option (Path × Expression)
  | .array [path, value] => do
      let path ← Path.ofJson? path
      let value ← Expression.ofJson? value
      return (path, value)
  | _ => none

/-- An operation in JSON. -/
def toJson (operation : Operation) : Json :=
  .object
    [("kind", operation.kind.toJson),
      ("target", operation.target.toJson),
      ("filter", Filter.toJsonOrNull operation.filter),
      ("aggregation", (operation.aggregation.map Aggregation.toJson).getD .null),
      ("sort", (operation.sort.map SortKey.clauseToJson).getD .null),
      ("projection", (operation.projection.map Projection.toJson).getD .null),
      ("limit", .ofWord? operation.limit),
      ("offset", .ofWord? operation.offset),
      ("distinct", .bool operation.distinct),
      ("values", .array (operation.values.map assignmentToJson)),
      ("lock_mode", operation.lockMode.toJson),
      ("hints", operation.hints.toJson)]

/-- The names of an operation's fields. -/
def fieldNames : List String :=
  ["kind", "target", "filter", "aggregation", "sort", "projection", "limit", "offset",
    "distinct", "values", "lock_mode", "hints"]

/-- The operation that a document describes. -/
def ofJson? (json : Json) : Option Operation := do
  let fields ← json.record? fieldNames
  let kind ← Json.required? OperationKind.ofJson? "kind" fields
  let target ← Json.required? Target.ofJson? "target" fields
  let filter ← Json.optional? Filter.ofJson? "filter" fields
  let aggregation ← Json.optional? Aggregation.ofJson? "aggregation" fields
  let sort ← Json.optional? SortKey.clauseOfJson? "sort" fields
  let projection ← Json.optional? Projection.ofJson? "projection" fields
  let limit ← Json.optional? Json.word? "limit" fields
  let offset ← Json.optional? Json.word? "offset" fields
  let distinct ← Json.required? Json.bool? "distinct" fields
  let values ← Json.required? (Json.list? assignmentOf?) "values" fields
  let lockMode ← Json.required? LockMode.ofJson? "lock_mode" fields
  let hints ← Json.required? Hints.ofJson? "hints" fields
  return {
    kind, target, filter, aggregation, sort, projection
    limit := limit.map UInt64.ofNat
    offset := offset.map UInt64.ofNat
    distinct, values, lockMode, hints }

end Operation
end ObjectQuery
