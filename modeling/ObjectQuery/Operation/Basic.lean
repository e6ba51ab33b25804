import ObjectQuery.Expression.Build
import ObjectQuery.Expression.Validation
import ObjectQuery.Table

/-!
# Operations

An operation is what a host hands in to be compiled: a target with the optional
filter, grouping, order and projection of a read, or the assignments of a write.
Limit, offset, lock mode and hints have no form in the statement and are passed on
to its executor.
-/

namespace ObjectQuery

/-- What is done with the target's rows. -/
inductive OperationKind where
  | select
  | update
  | delete
  /-- Adding rows, for which the language has no bulk statement. -/
  | insert
  deriving DecidableEq, Repr

namespace OperationKind

/-- Every operation but a select changes rows. -/
def isWrite (kind : OperationKind) : Bool :=
  kind != .select

/-- The name of the kind, with a capital. -/
def title : OperationKind → String
  | .select => "Select"
  | .update => "Update"
  | .delete => "Delete"
  | .insert => "Insert"

/-- The name of the kind, in small letters. -/
def name : OperationKind → String
  | .select => "select"
  | .update => "update"
  | .delete => "delete"
  | .insert => "insert"

end OperationKind

/-- The lock that an executor takes on the rows. -/
inductive LockMode where
  | none
  | optimistic
  | pessimisticRead
  | pessimisticWrite
  deriving DecidableEq, Repr

/-- Named texts that travel with an operation to whoever runs its statement, in order of name. -/
structure Hints where
  entries : List (String × String)
  sorted : Table.Sorted entries

namespace Hints

/-- No hints. -/
def none : Hints :=
  ⟨[], Table.sorted_nil⟩

instance : Inhabited Hints :=
  ⟨none⟩

/-- The hints with one name's text written. -/
def insert (hints : Hints) (name text : String) : Hints :=
  ⟨Table.insert name text hints.entries, hints.sorted.insert name text⟩

/-- The hints of a list of entries; of two with one name the later stays. -/
def ofEntries (entries : List (String × String)) : Hints :=
  ⟨Table.sort entries, Table.sorted_sort entries⟩

end Hints

/-- An operation on the rows of a target. -/
structure Operation where
  kind : OperationKind
  target : Target
  filter : Option Filter
  aggregation : Option Aggregation
  sort : Option (List SortKey)
  /-- Without a projection a select gives the whole root entity. -/
  projection : Option Projection
  limit : Option UInt64
  offset : Option UInt64
  distinct : Bool
  /-- The assignments of an update. -/
  values : List (Path × Expression)
  lockMode : LockMode
  hints : Hints

namespace Operation

/-- An operation on a target, without any clause. -/
def of (kind : OperationKind) (target : Target) : Operation :=
  { kind
    target
    filter := none
    aggregation := none
    sort := none
    projection := none
    limit := none
    offset := none
    distinct := false
    values := []
    lockMode := .none
    hints := Hints.none }

/-- The operation with one more assignment. -/
def set (operation : Operation) (path : Path) (value : Expression) : Operation :=
  { operation with values := operation.values ++ [(path, value)] }

/-- The operation with a hint written. -/
def withHint (operation : Operation) (name text : String) : Operation :=
  { operation with hints := operation.hints.insert name text }

/-- The assignments of an operation, one after the other. -/
def validateValues : List (Path × Expression) → Checked
  | [] => .ok ()
  | (path, value) :: rest => do
      Validation.path path
      Validation.require value.isOperand "operation"
        ("assigned value for '" ++ path.fullName ++ "' is not a value")
      Validation.expression value
      validateValues rest

/-- The check of an optional clause. -/
def validateClause {clause : Type} (validate : clause → Checked) : Option clause → Checked
  | none => .ok ()
  | some found => validate found

/-- The check of every part of an operation, from target to assignments. -/
def validate (operation : Operation) : Checked := do
  Validation.target operation.target
  validateClause Validation.filter operation.filter
  validateClause Validation.aggregation operation.aggregation
  validateClause (fun keys => Validation.expression (.sort keys)) operation.sort
  validateClause Validation.projection operation.projection
  Validation.require (operation.kind == .update || operation.values.isEmpty) "operation"
    ("assignments are only allowed on updates, not " ++ operation.kind.title)
  validateValues operation.values

end Operation
end ObjectQuery
