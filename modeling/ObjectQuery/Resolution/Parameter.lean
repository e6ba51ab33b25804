import ObjectQuery.Value.Basic

/-!
# Parameters

The values bound for a statement, in the order of their allocation. A parameter is
bound with a type, and with the granularity that its type or its value shows.
-/

namespace ObjectQuery

/-- A value bound to a parameter. -/
structure Parameter where
  valueType : ValueType
  value : Value
  temporal : Option Granularity

/-- The parameter for a value of a type. -/
def Parameter.of (value : Value) (valueType : ValueType) : Parameter :=
  ⟨valueType, value, valueType.temporalType?.or value.temporalType?⟩

/-- Named parameters in the order of their allocation. -/
structure ParameterTable where
  entries : List (String × Parameter)
  deriving Inhabited

namespace ParameterTable

/-- No parameters. -/
def empty : ParameterTable :=
  ⟨[]⟩

/-- The table with one more parameter. -/
def push (table : ParameterTable) (name : String) (parameter : Parameter) : ParameterTable :=
  ⟨table.entries ++ [(name, parameter)]⟩

/-- The first parameters up to a number. -/
def truncate (table : ParameterTable) (length : Nat) : ParameterTable :=
  ⟨table.entries.take length⟩

/-- The number of parameters. -/
def size (table : ParameterTable) : Nat :=
  table.entries.length

/-- The parameter with a name. -/
def get? (table : ParameterTable) (name : String) : Option Parameter :=
  (table.entries.find? fun entry => entry.1 = name).map Prod.snd

/-- The names in order. -/
def names (table : ParameterTable) : List String :=
  table.entries.map Prod.fst

/-- The bound values in order. -/
def values (table : ParameterTable) : List Value :=
  table.entries.map fun entry => entry.2.value

@[simp]
theorem size_push (table : ParameterTable) (name : String) (parameter : Parameter) :
    (table.push name parameter).size = table.size + 1 := by
  simp [push, size]

end ParameterTable
end ObjectQuery
