import ObjectQuery.Row.Basic
import ObjectQuery.Text.Blank

/-!
# Projection plans

What a projection is resolved to: the entries of the select list, the shape of the
rows and the way they are read. A plan selects something, no entry of it is blank,
and no column of a record points past the select list.
-/

namespace ObjectQuery

/-- An entry of a select list. -/
structure Selection where
  fragment : String
  aliasName : Option String
  deriving DecidableEq, Repr

/-- The entry with its alias. -/
def Selection.render (selection : Selection) : String :=
  match selection.aliasName with
  | some aliasName => selection.fragment ++ " AS " ++ aliasName
  | none => selection.fragment

/-- A select list with the shape and the reading of its rows. -/
structure ProjectionPlan where
  selections : List Selection
  shape : RowShape
  converter : RowReader

namespace ProjectionPlan

/-- The select list as it stands in a statement. -/
def selectList (plan : ProjectionPlan) : String :=
  ", ".intercalate (plan.selections.map Selection.render)

/-- What is wrong with a plan, if anything is. -/
def fault? (plan : ProjectionPlan) : Option String :=
  if plan.selections.isEmpty then
    some "projection selects nothing"
  else
    match plan.selections.findIdx? fun selection => Text.isBlank selection.fragment with
    | some position => some ("selection " ++ toString position ++ " is empty")
    | none =>
        if plan.converter.columnsWithin plan.selections.length then
          none
        else
          some "record column points past the select list"

/-- A plan of one column with a value of a type. -/
def scalar (fragment : String) (aliasName : Option String) (valueType : ValueType) :
    ProjectionPlan :=
  ⟨[⟨fragment, aliasName⟩], .scalar valueType, .scalar valueType⟩

/-- The columns of a record, from a position on. -/
def columnsFrom (position : Nat) : List (String × String × ValueType) → List RowColumn
  | [] => []
  | (name, _, valueType) :: rest =>
      ⟨name, some name, position, valueType⟩ :: columnsFrom (position + 1) rest

/-- A plan of named columns, each with its fragment and type. -/
def record (shape : RowShape) (columns : List (String × String × ValueType)) :
    ProjectionPlan :=
  ⟨columns.map fun (name, fragment, _) => ⟨fragment, some name⟩, shape,
    .record (columnsFrom 0 columns)⟩

theorem selectList_scalar
    (fragment : String)
    (aliasName : Option String)
    (valueType : ValueType) :
    (scalar fragment aliasName valueType).selectList = Selection.render ⟨fragment, aliasName⟩ := by
  simp [scalar, selectList]

theorem selectList_record (shape : RowShape) (columns : List (String × String × ValueType)) :
    (record shape columns).selectList =
      ", ".intercalate (columns.map fun column => column.2.1 ++ " AS " ++ column.1) := by
  simp [record, selectList, Selection.render, Function.comp_def]

end ProjectionPlan
end ObjectQuery
