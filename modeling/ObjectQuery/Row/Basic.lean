import ObjectQuery.Value.Coercion

/-!
# Rows and their readings

An executor gives rows back as single values, as tuples of named values or as
arrays. A converter says how a row is read: as one value of a type, as a fixed
value, as a whole entity, or as a record with a type for each column.
-/

namespace ObjectQuery

/-- A row as an executor gives it. -/
inductive Row where
  | scalar (value : Value)
  /-- Columns found by the alias of their selection. -/
  | tuple (columns : List (String × Value))
  /-- Columns found by their position. -/
  | array (cells : List Value)

/-- The name of a row's shape. -/
def Row.shapeLabel : Row → String
  | .scalar _ => "scalar"
  | .tuple _ => "tuple"
  | .array _ => "array"

/-- A row as the host gets it. -/
inductive RowContent where
  | value (value : Value)
  /-- Named values in the order of the projection. -/
  | record (fields : List (String × Value))
  /-- An entity that the host itself builds from the row. -/
  | entity (name : String) (row : Row)

/-- The value of a record's field. -/
def RowContent.field? (name : String) : RowContent → Option Value
  | .record fields => (fields.find? fun field => field.1 = name).map Prod.snd
  | _ => none

/-- The shape of the rows that a statement gives. -/
inductive RowShape where
  | scalar (valueType : ValueType)
  | tuple
  | array
  deriving DecidableEq, Repr

/-- Why a row cannot be read. -/
inductive RowError where
  | typeMismatch (expected found : String)
  | missingColumn (name : String)
  | arityMismatch (expected found : Nat)
  | shapeMismatch (expected found : String)
  deriving DecidableEq, Repr

/-- The message of a conversion error. -/
def RowError.message : RowError → String
  | .typeMismatch expected found =>
      "Type mismatch: expected " ++ expected ++ ", found " ++ found
  | .missingColumn name => "Column '" ++ name ++ "' is missing from the row"
  | .arityMismatch expected found =>
      "Row has " ++ toString found ++ " columns, expected " ++ toString expected
  | .shapeMismatch expected found =>
      "Expected a " ++ expected ++ " row, got a " ++ found ++ " row"

/-- A value taken to a type, or that it is of another. -/
def Value.coerce (expected : ValueType) (value : Value) : Except RowError Value :=
  match value.coerce? expected with
  | some coerced => .ok coerced
  | none => .error (.typeMismatch expected.label value.valueType.label)

/-- A column of a record. -/
structure RowColumn where
  /-- The name of the record's field. -/
  name : String
  /-- The alias under which tuples hold the column. -/
  aliasName : Option String
  /-- The position in the select list. -/
  position : Nat
  valueType : ValueType
  deriving DecidableEq, Repr

/-- The name under which tuples hold the column. -/
def RowColumn.key (column : RowColumn) : String :=
  column.aliasName.getD column.name

/-- How rows are read. -/
inductive RowReader where
  | scalar (valueType : ValueType)
  /-- Whatever the row, a fixed value. -/
  | constant (value : Value)
  | entity (name : String)
  | record (columns : List RowColumn)
  /-- A reading of the host's own. -/
  | custom (read : Row → Except RowError RowContent)

namespace RowReader

/-- The value of a row with one column. -/
def onlyCell : Row → Except RowError Value
  | .scalar value => .ok value
  | .array [value] => .ok value
  | .tuple [(_, value)] => .ok value
  | .array cells => .error (.arityMismatch 1 cells.length)
  | .tuple columns => .error (.arityMismatch 1 columns.length)

/-- The fields of a record, each found and then taken to its type. -/
def recordFields (find : RowColumn → Except RowError Value) :
    List RowColumn → Except RowError (List (String × Value))
  | [] => .ok []
  | column :: rest => do
      let found ← find column
      let value ← found.coerce column.valueType
      let fields ← recordFields find rest
      .ok ((column.name, value) :: fields)

/-- The cell of a tuple under a column's key. -/
def tupleCell (cells : List (String × Value)) (column : RowColumn) :
    Except RowError Value :=
  match cells.find? fun cell => cell.1 = column.key with
  | some cell => .ok cell.2
  | none => .error (.missingColumn column.key)

/-- The cell of an array at a column's position. -/
def arrayCell (cells : List Value) (column : RowColumn) : Except RowError Value :=
  match cells[column.position]? with
  | some cell => .ok cell
  | none => .error (.missingColumn column.name)

/-- The record that a row holds. -/
def readRecord (columns : List RowColumn) (row : Row) :
    Except RowError RowContent :=
  match row with
  | .tuple cells => (recordFields (tupleCell cells) columns).map .record
  | .array cells =>
      if cells.length = columns.length then
        (recordFields (arrayCell cells) columns).map .record
      else
        .error (.arityMismatch columns.length cells.length)
  | .scalar value =>
      match columns with
      | [column] => (recordFields (fun _ => .ok value) [column]).map .record
      | _ => .error (.shapeMismatch "multi-column" row.shapeLabel)

/-- The reading of a row. -/
def read (converter : RowReader) (row : Row) : Except RowError RowContent :=
  match converter with
  | .scalar valueType => do
      let found ← onlyCell row
      let value ← found.coerce valueType
      .ok (.value value)
  | .constant value => .ok (.value value)
  | .entity name => .ok (.entity name row)
  | .record columns => readRecord columns row
  | .custom read => read row

/-- The readings of rows, up to the first failure. -/
def readAll (converter : RowReader) :
    List Row → Except RowError (List RowContent)
  | [] => .ok []
  | row :: rest => do
      let value ← converter.read row
      let values ← readAll converter rest
      .ok (value :: values)

/-- Whether every column of a record lies within a select list of a length. -/
def columnsWithin (length : Nat) : RowReader → Bool
  | .record columns => columns.all fun column => column.position < length
  | _ => true

/-- A host's reading of arrays that counts their cells. -/
def countingCells : RowReader :=
  .custom fun row =>
    match row with
    | .array cells => .ok (.value (.integer (Int64.ofNat cells.length)))
    | other => .error (.shapeMismatch "array" other.shapeLabel)

end RowReader
end ObjectQuery
