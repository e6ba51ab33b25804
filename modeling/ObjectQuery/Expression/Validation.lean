import ObjectQuery.Expression.Basic
import ObjectQuery.Text.Blank
import ObjectQuery.Text.Identifier

/-!
# Validation of expressions

A node is checked before anything is written for it. The checks go from the front
to the back of a node and report the first fault: names that cannot be written,
operands that are not values, comparisons with null or with lists, empty lists of
keys, and sub-queries that select more than one value. A conjunction or disjunction
without conditions is not a fault of structure.
-/

namespace ObjectQuery

/-- A step followed by another succeeds when both do. -/
theorem Except.bind_ok_iff
    {error first second : Type}
    {step : Except error first}
    {next : first → Except error second}
    {result : second} :
    (step >>= next) = .ok result ↔ ∃ found, step = .ok found ∧ next found = .ok result := by
  cases step <;> simp [Bind.bind, Except.bind]

/-- A step followed by another fails when one of them does. -/
theorem Except.bind_error_iff
    {fault first second : Type}
    {step : Except fault first}
    {next : first → Except fault second}
    {error : fault} :
    (step >>= next) = .error error ↔
      step = .error error ∨ ∃ found, step = .ok found ∧ next found = .error error := by
  cases step <;> simp [Bind.bind, Except.bind]

/-- The outcome of a check. -/
abbrev Checked := Except NodeFault Unit

namespace Validation

/-- A fault in a node of a kind. -/
def fail (expression reason : String) : Checked :=
  .error ⟨expression, reason⟩

/-- A fault unless a condition holds. -/
def require (holds : Bool) (expression reason : String) : Checked :=
  if holds then .ok () else fail expression reason

/-- A check followed by another is passed when both are. -/
@[simp]
theorem andThen_ok_iff (first : Checked) (rest : Unit → Checked) :
    (first >>= rest) = .ok () ↔ first = .ok () ∧ rest () = .ok () := by
  cases first with
  | ok found => simp [Bind.bind, Except.bind]
  | error fault => simp [Bind.bind, Except.bind]

@[simp]
theorem require_ok_iff (holds : Bool) (expression reason : String) :
    require holds expression reason = .ok () ↔ holds = true := by
  cases holds <;> simp [require, fail]

/-- An alias must be an identifier. -/
def aliasName (expression : String) : Option String → Checked
  | none => .ok ()
  | some name =>
      require (Text.isIdentifier name) expression
        ("alias '" ++ name ++ "' is not a valid identifier")

/-- The names of a path and of the paths around it. -/
def path : Path → Checked
  | .mk name _ parent _ selected => do
      require (name != "") "path" "path name is empty"
      require (!Text.hasBlank name) "path" ("path name '" ++ name ++ "' contains whitespace")
      require ((Text.segments name).all (!·.isEmpty)) "path"
        ("path name '" ++ name ++ "' has an empty segment")
      aliasName "path" selected
      match parent with
      | none => .ok ()
      | some parent => path parent

/-- The name and alias of a target, without its joins. -/
def targetNames (name : String) (given : Option String) : Checked := do
  require (!Text.isBlank name) "target" "target name is empty"
  require (!Text.hasBlank name) "target" ("target name '" ++ name ++ "' contains whitespace")
  aliasName "target" given

/-- An operand of a filter in a role, all but its own check. -/
def operandRole (role : String) (operand : Expression) : Checked := do
  require operand.isOperand "filter"
    (role ++ " operand is a " ++ operand.kind.name ++ ", not a value")
  match operand with
  | .constant .null => fail "filter" (role ++ " operand is the null constant")
  | _ => .ok ()

/-- The pattern of a string match. -/
def matchedValue : Expression → Checked
  | .constant (.string _) => .ok ()
  | .constant .null => fail "filter" "string match has no right operand"
  | _ => fail "filter" "string match value must be a string constant"

/-- A key of a sort or a grouping, all but its own check. -/
def keyRole (expression verb : String) (key : Expression) : Checked :=
  require (key.isOperand && key.constant?.isNone) expression
    ("cannot " ++ verb ++ " by a " ++ key.kind.name)

/-- The right side of a comparison is no list. -/
def comparedValue : Expression → Checked
  | .constant (.list _) => fail "filter" "comparison against a list, use IN"
  | _ => .ok ()

/-- The items of a list that is searched. -/
def memberList (items : List Value) : Checked := do
  require (!items.isEmpty) "filter" "IN list is empty"
  require (!items.any Value.isNull) "filter" "IN list contains null"

/-- The right side of a membership, all but its own check. -/
def memberRole : Expression → Checked
  | .constant (.list items) => memberList items
  | .constant .null => fail "filter" "IN operand is the null constant"
  | .constant _ | .subQuery _ => .ok ()
  | other => operandRole "right" other

mutual

/-- Any node. -/
def expression : Expression → Checked
  | .path found => path found
  | .constant _ => .ok ()
  | .function call => function call
  | .subQuery query => subQuery query
  | .filter condition => filter condition
  | .sort keys => do
      require (!keys.isEmpty) "sort" "no sort keys"
      sortKeys keys
  | .aggregation found => aggregation found
  | .projection found => projection found
  | .target found => target found
  | .custom node =>
      match node.fault with
      | none => .ok ()
      | some fault => .error fault

/-- A function call: arity, distinctness and arguments. -/
def function : FunctionCall → Checked
  | .mk kind arguments distinct => do
      require (arguments.length == kind.arity) "function"
        (kind.name ++ " expects " ++ toString kind.arity ++ " argument(s), got " ++
          toString arguments.length)
      require (!distinct || kind.isAggregate) "function"
        ("DISTINCT is not allowed on " ++ kind.name)
      functionArguments kind arguments

/-- The arguments of a function. -/
def functionArguments (kind : FunctionKind) : List Expression → Checked
  | [] => .ok ()
  | argument :: rest => do
      require argument.isOperand "function"
        (argument.kind.name ++ " argument of " ++ kind.name ++ " is not a value")
      expression argument
      functionArguments kind rest

/-- A condition. -/
def filter : Filter → Checked
  | .isNull operand | .isNotNull operand => do
      require operand.isOperand "filter" ("null test on a " ++ operand.kind.name)
      expression operand
  | .compare left _ right => do
      operandRole "left" left
      expression left
      operandRole "right" right
      expression right
      comparedValue right
  | .between operand lower upper => do
      operandRole "between" operand
      expression operand
      operandRole "lower bound" lower
      expression lower
      operandRole "upper bound" upper
      expression upper
  | .isIn left right | .isNotIn left right => do
      operandRole "left" left
      expression left
      memberRole right
      expression right
  | .stringMatch left value _ _ => do
      operandRole "left" left
      expression left
      matchedValue value
  | .and conditions | .or conditions => filters conditions
  | .not condition => filter condition
  | .hasRows query | .hasNoRows query => subQuery query

/-- Conditions one after the other. -/
def filters : List Filter → Checked
  | [] => .ok ()
  | condition :: rest => do
      filter condition
      filters rest

/-- A target with its joins. -/
def target : Target → Checked
  | .mk name _ given joined => do
      targetNames name given
      joins joined

/-- Joins one after the other. -/
def joins : List Join → Checked
  | [] => .ok ()
  | first :: rest => do
      join first
      joins rest

/-- A joined target and its condition. -/
def join : Join → Checked
  | .mk _ joined condition => do
      target joined
      match condition with
      | none => .ok ()
      | some condition => filter condition

/-- Sort keys one after the other. -/
def sortKeys : List SortKey → Checked
  | [] => .ok ()
  | key :: rest => do
      sortKey key
      sortKeys rest

/-- A sort key. -/
def sortKey : SortKey → Checked
  | .mk key _ => do
      keyRole "sort" "sort" key
      expression key

/-- The keys of a grouping and the condition on its groups. -/
def aggregation : Aggregation → Checked
  | .mk keys having => do
      require (!keys.isEmpty) "aggregation" "no group-by keys"
      groupKeys keys
      match having with
      | none => .ok ()
      | some condition => filter condition

/-- The keys of a grouping, one after the other. -/
def groupKeys : List Expression → Checked
  | [] => .ok ()
  | key :: rest => do
      keyRole "aggregation" "group" key
      expression key
      groupKeys rest

/-- A projection. -/
def projection : Projection → Checked
  | .path found => path found
  | .function call => function call
  | .constant (.list _) => fail "projection" "a list cannot be projected as a constant"
  | .properties items => do
      require (!items.isEmpty) "projection" "property list is empty"
      projectionItems [] items
  | .target (some name) => require (name != "") "projection" "target name is empty"
  | _ => .ok ()

/-- Projected properties, given the names of those before them. -/
def projectionItems (earlier : List String) : List NamedProperty → Checked
  | [] => .ok ()
  | .mk name item :: rest => do
      require (Text.isIdentifier name) "projection"
        ("item name '" ++ name ++ "' is not a valid identifier")
      require (!earlier.contains name) "projection" ("duplicate item name '" ++ name ++ "'")
      require item.isOperand "projection" ("item '" ++ name ++ "' is not a value")
      expression item
      projectionItems (name :: earlier) rest

/-- A sub-query: target, filter, one selected value, projection. -/
def subQuery : SubQuery → Checked
  | .mk queried condition selected _ => do
      target queried
      match condition with
      | none => .ok ()
      | some condition => filter condition
      require (!selected.hasSeveralColumns) "sub-query" "a sub-query must select a single value"
      projection selected

end

/-! ## What a check that is passed tells -/

theorem length_of_function
    {kind : FunctionKind}
    {arguments : List Expression}
    {distinct : Bool}
    (valid : function (.mk kind arguments distinct) = .ok ()) :
    arguments.length = kind.arity := by
  simp only [function, andThen_ok_iff, require_ok_iff, beq_iff_eq] at valid
  exact valid.1

/-- No function has two arguments. -/
theorem length_le_one_of_function
    {kind : FunctionKind}
    {arguments : List Expression}
    {distinct : Bool}
    (valid : function (.mk kind arguments distinct) = .ok ()) :
    arguments.length ≤ 1 := by
  rw [length_of_function valid]
  cases kind <;> decide

theorem of_target {found : Target} (valid : target found = .ok ()) :
    targetNames found.name found.aliasName = .ok () ∧ joins found.joins = .ok () := by
  obtain ⟨name, entity, given, joined⟩ := found
  simp only [target, andThen_ok_iff] at valid
  exact valid

theorem of_joins
    {first : Join}
    {rest : List Join}
    (valid : joins (first :: rest) = .ok ()) :
    join first = .ok () ∧ joins rest = .ok () := by
  simpa only [joins, andThen_ok_iff] using valid

theorem target_of_join
    {joinType : JoinType}
    {joined : Target}
    {condition : Option Filter}
    (valid : join (.mk joinType joined condition) = .ok ()) :
    target joined = .ok () := by
  cases condition with
  | none => exact ((andThen_ok_iff _ _).mp (by simpa only [join] using valid)).1
  | some condition => exact ((andThen_ok_iff _ _).mp (by simpa only [join] using valid)).1

end Validation

/-- The check of a node. -/
def Expression.validate (expression : Expression) : Checked :=
  Validation.expression expression

end ObjectQuery
