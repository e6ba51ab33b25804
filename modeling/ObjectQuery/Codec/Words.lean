import ObjectQuery.Json.Record
import ObjectQuery.Operation.Basic

/-!
# Words for the choices of a node

Each choice without content is written as one word. Comparisons that may be
inclusive say so in a record.
-/

namespace ObjectQuery

/-- A function by its name. -/
def FunctionKind.toJson (kind : FunctionKind) : Json :=
  .string kind.name

/-- The function that a document names. -/
def FunctionKind.ofJson? (json : Json) : Option FunctionKind :=
  match json.unitVariant? with
  | some name => FunctionKind.all.find? fun kind => kind.name = name
  | none => none

namespace CompareOperator

/-- An operator in JSON. -/
def toJson : CompareOperator → Json
  | .equal => .string "equal"
  | .notEqual => .string "not_equal"
  | .greater inclusive => .tagged "greater" (.tagged "inclusive" (.bool inclusive))
  | .less inclusive => .tagged "less" (.tagged "inclusive" (.bool inclusive))

/-- Whether the bound itself is meant, as a record says. -/
def inclusive? (content : Json) : Option Bool := do
  let fields ← content.fields?
  Json.required? Json.bool? "inclusive" fields

/-- The operator that a document writes. -/
def ofJson? (json : Json) : Option CompareOperator :=
  match json.unitVariant? with
  | some "equal" => some .equal
  | some "not_equal" => some .notEqual
  | some _ => none
  | none =>
      match json.variant? with
      | some ("greater", some content) => (inclusive? content).map .greater
      | some ("less", some content) => (inclusive? content).map .less
      | _ => none

end CompareOperator

/-- A match mode in JSON. -/
def MatchMode.toJson : MatchMode → Json
  | .contains => .string "contains"
  | .startsWith => .string "starts_with"
  | .endsWith => .string "ends_with"

/-- The match mode that a document writes. -/
def MatchMode.ofJson? (json : Json) : Option MatchMode :=
  match json.unitVariant? with
  | some "contains" => some .contains
  | some "starts_with" => some .startsWith
  | some "ends_with" => some .endsWith
  | _ => none

/-- A join type in JSON. -/
def JoinType.toJson : JoinType → Json
  | .inner => .string "inner"
  | .left => .string "left"
  | .right => .string "right"

/-- The join type that a document writes. -/
def JoinType.ofJson? (json : Json) : Option JoinType :=
  match json.unitVariant? with
  | some "inner" => some .inner
  | some "left" => some .left
  | some "right" => some .right
  | _ => none

/-- A direction in JSON. -/
def SortDirection.toJson : SortDirection → Json
  | .ascending => .string "asc"
  | .descending => .string "desc"

/-- The direction that a document writes. -/
def SortDirection.ofJson? (json : Json) : Option SortDirection :=
  match json.unitVariant? with
  | some "asc" => some .ascending
  | some "desc" => some .descending
  | _ => none

/-- A kind of operation in JSON. -/
def OperationKind.toJson (kind : OperationKind) : Json :=
  .string kind.name

/-- The kind of operation that a document writes. -/
def OperationKind.ofJson? (json : Json) : Option OperationKind :=
  match json.unitVariant? with
  | some "select" => some .select
  | some "update" => some .update
  | some "delete" => some .delete
  | some "insert" => some .insert
  | _ => none

/-- A lock mode in JSON. -/
def LockMode.toJson : LockMode → Json
  | .none => .string "none"
  | .optimistic => .string "optimistic"
  | .pessimisticRead => .string "pessimistic_read"
  | .pessimisticWrite => .string "pessimistic_write"

/-- The lock mode that a document writes. -/
def LockMode.ofJson? (json : Json) : Option LockMode :=
  match json.unitVariant? with
  | some "none" => some LockMode.none
  | some "optimistic" => some .optimistic
  | some "pessimistic_read" => some .pessimisticRead
  | some "pessimistic_write" => some .pessimisticWrite
  | _ => Option.none

end ObjectQuery
