import Mathlib.Data.List.Forall2
import Mathlib.Data.List.Nodup
import ObjectQuery.Expression.Validation
import ObjectQuery.Proofs.Rows.Coercion
import ObjectQuery.Proofs.Tables
import ObjectQuery.Row.Plan

/-!
# Records of rows

The columns of a planned record stand in the order of the select list, each under its name. So
an array holds the cell of a column at the column's position, and a tuple that names the cells
after the columns holds the same cell under the column's key, in whichever order its columns
come, provided that no two columns share a name. A reading depends on nothing else of the row.
-/

namespace ObjectQuery

open RowReader ProjectionPlan

/-! ## Columns of a planned record -/

/-- The name and the type of a column, without its text. -/
def ProjectionPlan.field (column : String × String × ValueType) : String × ValueType :=
  (column.1, column.2.2)

/-- The name and the type of a record's column. -/
def RowColumn.field (column : RowColumn) : String × ValueType :=
  (column.name, column.valueType)

theorem ProjectionPlan.length_columnsFrom
    (position : Nat)
    (columns : List (String × String × ValueType)) :
    (columnsFrom position columns).length = columns.length := by
  induction columns generalizing position with
  | nil => rfl
  | cons column rest inductionHypothesis => simp [columnsFrom, inductionHypothesis]

/-- Each column has the position at which it stands. -/
theorem ProjectionPlan.getElem?_columnsFrom
    (position : Nat)
    (columns : List (String × String × ValueType))
    (index : Nat) :
    (columnsFrom position columns)[index]? =
      columns[index]?.map fun column =>
        ⟨column.1, some column.1, position + index, column.2.2⟩ := by
  induction columns generalizing position index with
  | nil => rfl
  | cons column rest inductionHypothesis =>
      cases index with
      | zero => rfl
      | succ index =>
          simp only [columnsFrom, List.getElem?_cons_succ, inductionHypothesis]
          rw [Nat.add_right_comm, Nat.add_assoc]

theorem ProjectionPlan.map_field_columnsFrom
    (position : Nat)
    (columns : List (String × String × ValueType)) :
    (columnsFrom position columns).map RowColumn.field = columns.map field := by
  induction columns generalizing position with
  | nil => rfl
  | cons column rest inductionHypothesis =>
      simp [columnsFrom, inductionHypothesis, RowColumn.field, field]

namespace RowReader

/-! ## Readings of found cells -/

/-- The record that cells make up under names, each cell taken to the type at its side. -/
def fieldsOf : List ((String × ValueType) × Value) → Except RowError (List (String × Value))
  | [] => .ok []
  | ((name, valueType), cell) :: rest => do
      let value ← cell.coerce valueType
      let fields ← fieldsOf rest
      .ok ((name, value) :: fields)

/-- A reading that finds a cell for each column reads just these cells. -/
theorem recordFields_eq_fieldsOf
    {find : RowColumn → Except RowError Value}
    {columns : List RowColumn}
    {cells : List Value}
    (asMany : cells.length = columns.length)
    (finds : ∀ column cell, (column, cell) ∈ columns.zip cells → find column = .ok cell) :
    recordFields find columns = fieldsOf ((columns.map RowColumn.field).zip cells) := by
  induction columns generalizing cells with
  | nil => rfl
  | cons column columns inductionHypothesis =>
      cases cells with
      | nil => simp at asMany
      | cons cell cells =>
          simp only [List.zip_cons_cons, List.mem_cons, Prod.mk.injEq] at finds
          have found := finds column cell (.inl ⟨rfl, rfl⟩)
          have rest := inductionHypothesis (by simpa using asMany)
            fun column cell member => finds column cell (.inr member)
          simp only [recordFields, found, rest, List.map_cons, List.zip_cons_cons]
          rfl

theorem recordFields_cons_eq_ok
    {find : RowColumn → Except RowError Value}
    {column : RowColumn}
    {columns : List RowColumn}
    {fields : List (String × Value)}
    (read : recordFields find (column :: columns) = .ok fields) :
    ∃ cell value others,
      find column = .ok cell ∧
        cell.coerce column.valueType = .ok value ∧
        recordFields find columns = .ok others ∧
        fields = (column.name, value) :: others := by
  rw [recordFields] at read
  obtain ⟨cell, found, read⟩ := Except.bind_ok_iff.mp read
  obtain ⟨value, taken, read⟩ := Except.bind_ok_iff.mp read
  obtain ⟨others, rest, read⟩ := Except.bind_ok_iff.mp read
  exact ⟨cell, value, others, found, taken, rest, (Except.ok.inj read).symm⟩

/-- A field goes by the name of its column, and a coercion to the column's type, which its value
fits, leaves the value as it is. -/
def Conforms (column : String × ValueType) (field : String × Value) : Prop :=
  field.1 = column.1 ∧ field.2.Fits column.2 ∧ field.2.coerce column.2 = .ok field.2

/-- Whatever the cells, the fields that are read conform to the columns, one to one. -/
theorem conforms_of_recordFields
    {find : RowColumn → Except RowError Value}
    {columns : List RowColumn}
    {fields : List (String × Value)}
    (read : recordFields find columns = .ok fields) :
    List.Forall₂ Conforms (columns.map RowColumn.field) fields := by
  induction columns generalizing fields with
  | nil =>
      cases read
      exact .nil
  | cons column columns inductionHypothesis =>
      obtain ⟨cell, value, others, -, taken, rest, rfl⟩ := recordFields_cons_eq_ok read
      exact .cons ⟨rfl, Value.fits_of_coerce taken⟩ (inductionHypothesis rest)

/-- A record that is read off a row of whichever kind conforms to the columns. -/
theorem conforms_of_readRecord
    {columns : List RowColumn}
    {row : Row}
    {content : RowContent}
    (read : readRecord columns row = .ok content) :
    ∃ fields,
      content = .record fields ∧ List.Forall₂ Conforms (columns.map RowColumn.field) fields := by
  have ofFields {find : RowColumn → Except RowError Value}
      (mapped : (recordFields find columns).map RowContent.record = .ok content) :
      ∃ fields,
        content = .record fields ∧
          List.Forall₂ Conforms (columns.map RowColumn.field) fields := by
    cases found : recordFields find columns with
    | error error => simp [found, Except.map] at mapped
    | ok fields =>
        exact ⟨fields, by simpa [found, Except.map] using mapped.symm,
          conforms_of_recordFields found⟩
  cases row with
  | tuple cells => exact ofFields read
  | array _ | scalar _ =>
      simp only [readRecord] at read
      split at read
      · exact ofFields read
      · cases read

/-- A value that is read is the only cell of the row, taken to the type. -/
theorem read_scalar_eq_ok
    {valueType : ValueType}
    {row : Row}
    {content : RowContent}
    (read : (RowReader.scalar valueType).read row = .ok content) :
    ∃ cell value,
      onlyCell row = .ok cell ∧ cell.coerce valueType = .ok value ∧ content = .value value := by
  rw [RowReader.read] at read
  obtain ⟨cell, found, read⟩ := Except.bind_ok_iff.mp read
  obtain ⟨value, taken, read⟩ := Except.bind_ok_iff.mp read
  exact ⟨cell, value, found, taken, (Except.ok.inj read).symm⟩

/-- Fields that conform to columns have their names, one to one. -/
theorem map_fst_of_conforms
    {columns : List (String × ValueType)}
    {fields : List (String × Value)}
    (conforms : List.Forall₂ Conforms columns fields) :
    fields.map Prod.fst = columns.map Prod.fst := by
  induction conforms with
  | nil => rfl
  | cons first _ inductionHypothesis => simp [first.1, inductionHypothesis]

/-! ## Positions and keys -/

variable {columns : List (String × String × ValueType)} {cells : List Value}

/-- The column at an index, with the cell there. -/
theorem exists_index_of_mem_zip
    {column : RowColumn}
    {cell : Value}
    (member : (column, cell) ∈ (columnsFrom 0 columns).zip cells) :
    (columns.map Prod.fst)[column.position]? = some column.key ∧
      cells[column.position]? = some cell := by
  obtain ⟨index, found⟩ := List.mem_iff_getElem?.mp member
  obtain ⟨atColumn, atCell⟩ := List.getElem?_zip_eq_some.mp found
  rw [getElem?_columnsFrom, Option.map_eq_some_iff] at atColumn
  obtain ⟨planned, atPlanned, rfl⟩ := atColumn
  simp only [Nat.zero_add]
  exact ⟨by simp [atPlanned, RowColumn.key], atCell⟩

theorem arrayCell_of_mem_zip
    {column : RowColumn}
    {cell : Value}
    (member : (column, cell) ∈ (columnsFrom 0 columns).zip cells) :
    arrayCell cells column = .ok cell := by
  rw [arrayCell, (exists_index_of_mem_zip member).2]

theorem tupleCell_of_mem_zip
    {tuple : List (String × Value)}
    {column : RowColumn}
    {cell : Value}
    (asMany : cells.length = columns.length)
    (distinct : (columns.map Prod.fst).Nodup)
    (named : tuple.Perm ((columns.map Prod.fst).zip cells))
    (member : (column, cell) ∈ (columnsFrom 0 columns).zip cells) :
    tupleCell tuple column = .ok cell := by
  obtain ⟨atKey, atCell⟩ := exists_index_of_mem_zip member
  have among : (column.key, cell) ∈ tuple :=
    named.mem_iff.mpr (List.mem_of_getElem? (List.getElem?_zip_eq_some.mpr ⟨atKey, atCell⟩))
  have keys : (tuple.map Prod.fst).Nodup := by
    rw [(named.map Prod.fst).nodup_iff, List.map_fst_zip (by simp [asMany])]
    exact distinct
  rw [tupleCell, Table.findEntry_eq_some_of_mem keys among]

/-- An array row is read as the record of its cells. -/
theorem readRecord_array (asMany : cells.length = columns.length) :
    readRecord (columnsFrom 0 columns) (.array cells) =
      (fieldsOf ((columns.map field).zip cells)).map .record := by
  have asMany' : cells.length = (columnsFrom 0 columns).length := by
    rw [length_columnsFrom, asMany]
  rw [readRecord, if_pos asMany', recordFields_eq_fieldsOf asMany' fun _ _ => arrayCell_of_mem_zip,
    map_field_columnsFrom]

/-- A tuple row whose names are distinct is read as the same record, in any order of columns. -/
theorem readRecord_tuple
    {tuple : List (String × Value)}
    (asMany : cells.length = columns.length)
    (distinct : (columns.map Prod.fst).Nodup)
    (named : tuple.Perm ((columns.map Prod.fst).zip cells)) :
    readRecord (columnsFrom 0 columns) (.tuple tuple) =
      (fieldsOf ((columns.map field).zip cells)).map .record := by
  have asMany' : cells.length = (columnsFrom 0 columns).length := by
    rw [length_columnsFrom, asMany]
  rw [readRecord, recordFields_eq_fieldsOf asMany' fun _ _ =>
    tupleCell_of_mem_zip asMany distinct named, map_field_columnsFrom]

/-! ## Columns that can be addressed -/

/-- Every tuple of named cells shows at each column the cell that is the column's own. -/
def Addresses (names : List String) (columns : List RowColumn) : Prop :=
  ∀ cells : List Value, cells.length = names.length →
    ∀ column ∈ columns, tupleCell (names.zip cells) column = arrayCell cells column

theorem exists_cell_of_mem
    {column : RowColumn}
    (asMany : cells.length = columns.length)
    (member : column ∈ columnsFrom 0 columns) :
    ∃ cell, (column, cell) ∈ (columnsFrom 0 columns).zip cells := by
  have atMost : (columnsFrom 0 columns).length ≤ cells.length := by
    rw [length_columnsFrom]
    exact Nat.le_of_eq asMany.symm
  rw [← List.map_fst_zip atMost, List.mem_map] at member
  obtain ⟨⟨_, cell⟩, zipped, rfl⟩ := member
  exact ⟨cell, zipped⟩

/-- All columns can be addressed under their names exactly where no two share a name. -/
theorem addresses_iff :
    Addresses (columns.map Prod.fst) (columnsFrom 0 columns) ↔
      (columns.map Prod.fst).Nodup := by
  constructor
  · intro addresses
    rw [List.nodup_iff_getElem?_ne_getElem?]
    intro first second before within same
    rw [List.length_map] at within
    -- Of two columns with one name only the second has the cell that is true.
    let cells := (List.range columns.length).map fun index => Value.boolean (index = second)
    have shows (index : Nat) (column : String × String × ValueType)
        (found : columns[index]? = some column) :
        tupleCell ((columns.map Prod.fst).zip cells)
            ⟨column.1, some column.1, index, column.2.2⟩ = .ok (.boolean (index = second)) := by
      have planned : ⟨column.1, some column.1, index, column.2.2⟩ ∈ columnsFrom 0 columns :=
        List.mem_iff_getElem?.mpr ⟨index, by simp [getElem?_columnsFrom, found]⟩
      have inside : index < columns.length := (List.getElem?_eq_some_iff.mp found).1
      rw [addresses cells (by simp [cells]) _ planned]
      simp [arrayCell, cells, inside]
    have atSecond := List.getElem?_eq_getElem within
    have atFirst := List.getElem?_eq_getElem (Nat.lt_trans before within)
    have oneKey : columns[first].1 = columns[second].1 := by
      simpa [atFirst, atSecond] using same
    have showsFirst := shows first _ atFirst
    have showsSecond := shows second _ atSecond
    simp only [tupleCell, RowColumn.key, Option.getD_some, oneKey] at showsFirst showsSecond
    simpa [Nat.ne_of_lt before] using showsFirst.symm.trans showsSecond
  · intro distinct cells asMany column member
    rw [List.length_map] at asMany
    obtain ⟨cell, zipped⟩ := exists_cell_of_mem asMany member
    rw [tupleCell_of_mem_zip asMany distinct (.refl _) zipped, arrayCell_of_mem_zip zipped]

end RowReader
end ObjectQuery
