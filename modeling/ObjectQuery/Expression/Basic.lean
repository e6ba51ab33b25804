import ObjectQuery.Text.Pattern
import ObjectQuery.Value.Basic

/-!
# Expressions

The nodes from which operations are built. A node is pure data: it says what is
meant, not how it is written. Operands are paths, constants, function calls,
sub-queries and custom nodes; filters combine operands into conditions; sort keys,
aggregations, projections and targets are the clauses of a query.
-/

namespace ObjectQuery

/-- A node that rejects its own state, with the kind of the node and the reason. -/
structure NodeFault where
  expression : String
  reason : String
  deriving DecidableEq, Repr

/-- The message of a rejected node. -/
def NodeFault.message (invalid : NodeFault) : String :=
  "Invalid " ++ invalid.expression ++ " expression: " ++ invalid.reason

/-- The functions of the query language. -/
inductive FunctionKind where
  | count
  | sum
  | avg
  | min
  | max
  | lower
  | upper
  | year
  | month
  | day
  | hour
  | currentDate
  | currentTime
  | currentTimestamp
  deriving DecidableEq, Repr

namespace FunctionKind

/-- Every function, in the order in which lists show them. -/
def all : List FunctionKind :=
  [.count, .sum, .avg, .min, .max, .lower, .upper, .year, .month, .day, .hour,
    .currentDate, .currentTime, .currentTimestamp]

/-- Functions over the rows of a group. -/
def isAggregate : FunctionKind → Bool
  | .count | .sum | .avg | .min | .max => true
  | _ => false

/-- The number of arguments. -/
def arity : FunctionKind → Nat
  | .currentDate | .currentTime | .currentTimestamp => 0
  | _ => 1

/-- The name of the function. -/
def name : FunctionKind → String
  | .count => "count"
  | .sum => "sum"
  | .avg => "avg"
  | .min => "min"
  | .max => "max"
  | .lower => "lower"
  | .upper => "upper"
  | .year => "year"
  | .month => "month"
  | .day => "day"
  | .hour => "hour"
  | .currentDate => "current_date"
  | .currentTime => "current_time"
  | .currentTimestamp => "current_timestamp"

end FunctionKind

/-- How the two sides of a comparison must stand. -/
inductive CompareOperator where
  | equal
  | notEqual
  | greater (inclusive : Bool)
  | less (inclusive : Bool)
  deriving DecidableEq, Repr

/-- The sign of an operator in a statement. -/
def CompareOperator.symbol : CompareOperator → String
  | .equal => "="
  | .notEqual => "<>"
  | .greater false => ">"
  | .greater true => ">="
  | .less false => "<"
  | .less true => "<="

/-- How a target is joined. -/
inductive JoinType where
  | inner
  | left
  | right
  deriving DecidableEq, Repr

/-- The words that join a target. -/
def JoinType.keyword : JoinType → String
  | .inner => "INNER JOIN"
  | .left => "LEFT JOIN"
  | .right => "RIGHT JOIN"

/-- The direction of a sort key. -/
inductive SortDirection where
  | ascending
  | descending
  deriving DecidableEq, Repr

/-- The word for a direction. -/
def SortDirection.keyword : SortDirection → String
  | .ascending => "ASC"
  | .descending => "DESC"

/-- The kinds of node; a custom kind is told apart by its node type. -/
inductive ExpressionKind where
  | path
  | constant
  | function
  | subQuery
  | filter
  | sort
  | aggregation
  | projection
  | target
  | custom (nodeType name : String)
  deriving DecidableEq, Repr

/-- The name of a kind in messages. -/
def ExpressionKind.name : ExpressionKind → String
  | .path => "path"
  | .constant => "constant"
  | .function => "function"
  | .subQuery => "sub-query"
  | .filter => "filter"
  | .sort => "sort"
  | .aggregation => "aggregation"
  | .projection => "projection"
  | .target => "target"
  | .custom _ name => name

/--
A property of a target, by a dotted name that may itself lie inside an enclosing
path.
-/
inductive Path where
  | mk
    (name : String)
    (valueType : ValueType)
    (parent : Option Path)
    (target : Option String)
    (aliasName : Option String)
  deriving Repr

/--
A node of the host's own. Only registered resolvers can answer for it; the library
knows its type, the name of its kind, the type of its values and whether it rejects
its own state.
-/
structure CustomNode where
  nodeType : String
  kindName : String
  valueType : ValueType
  fault : Option NodeFault
  deriving DecidableEq, Repr

mutual

/-- A node. -/
inductive Expression where
  | path (path : Path)
  | constant (value : Value)
  | function (call : FunctionCall)
  | subQuery (query : SubQuery)
  | filter (condition : Filter)
  | sort (keys : List SortKey)
  | aggregation (aggregation : Aggregation)
  | projection (projection : Projection)
  | target (target : Target)
  | custom (node : CustomNode)

/-- A function applied to arguments; aggregates may count equal values once. -/
inductive FunctionCall where
  | mk (kind : FunctionKind) (arguments : List Expression) (distinct : Bool)

/-- A condition on rows. -/
inductive Filter where
  | isNull (operand : Expression)
  | isNotNull (operand : Expression)
  | compare (left : Expression) (operator : CompareOperator) (right : Expression)
  | between (operand lower upper : Expression)
  /-- The right side is a list or a sub-query. -/
  | isIn (left right : Expression)
  | isNotIn (left right : Expression)
  | stringMatch (left value : Expression) (mode : MatchMode) (ignoreCase : Bool)
  | and (conditions : List Filter)
  | or (conditions : List Filter)
  | not (condition : Filter)
  | hasRows (query : SubQuery)
  | hasNoRows (query : SubQuery)

/-- A named relation and the relations joined to it. -/
inductive Target where
  | mk (name : String) (entity : Option String) (aliasName : Option String) (joins : List Join)

/-- A joined relation with its condition. -/
inductive Join where
  | mk (joinType : JoinType) (target : Target) (condition : Option Filter)

/-- An expression to sort by. -/
inductive SortKey where
  | mk (expression : Expression) (direction : SortDirection)

/-- The keys that rows are grouped by, and a condition on the groups. -/
inductive Aggregation where
  | mk (keys : List Expression) (having : Option Filter)

/-- What each result row holds. -/
inductive Projection where
  | path (path : Path)
  | function (call : FunctionCall)
  /-- A constant, written into the select list. -/
  | constant (value : Value)
  /-- A whole entity; without a name that of the root target. -/
  | target (name : Option String)
  | properties (items : List NamedProperty)
  /-- Every attribute of the root target that the catalog lists. -/
  | selectAll
  /-- The number of rows. -/
  | countAll

/-- One named property of a record. -/
inductive NamedProperty where
  | mk (name : String) (expression : Expression)

/-- A query inside another; correlations name the enclosing targets it reads. -/
inductive SubQuery where
  | mk
    (target : Target)
    (filter : Option Filter)
    (projection : Projection)
    (correlations : List String)

end

namespace Path

/-- The last part of the name. -/
def name : Path → String
  | .mk name _ _ _ _ => name

/-- The type of the property's values. -/
def valueType : Path → ValueType
  | .mk _ valueType _ _ _ => valueType

/-- The alias that a selection of the property carries. -/
def aliasName : Path → Option String
  | .mk _ _ _ _ aliasName => aliasName

/-- The dotted name with the names of the enclosing paths before it. -/
def fullName : Path → String
  | .mk name _ none _ _ => name
  | .mk name _ (some parent) _ _ => parent.fullName ++ "." ++ name

/-- The target that the outermost qualified path names. -/
def qualifier? : Path → Option String
  | .mk _ _ none target _ => target
  | .mk _ _ (some parent) target _ => parent.qualifier?.or target

end Path

namespace FunctionCall

/-- The function. -/
def kind : FunctionCall → FunctionKind
  | .mk kind _ _ => kind

/-- The arguments. -/
def arguments : FunctionCall → List Expression
  | .mk _ arguments _ => arguments

/-- Whether equal values count once. -/
def distinct : FunctionCall → Bool
  | .mk _ _ distinct => distinct

end FunctionCall

namespace Target

/-- The logical name. -/
def name : Target → String
  | .mk name _ _ _ => name

/-- The entity given by the operation itself. -/
def entity : Target → Option String
  | .mk _ entity _ _ => entity

/-- The alias given by the operation itself. -/
def aliasName : Target → Option String
  | .mk _ _ aliasName _ => aliasName

/-- The joined relations. -/
def joins : Target → List Join
  | .mk _ _ _ joins => joins

mutual

/-- The number of targets in the tree of joins. -/
def targetCount : Target → Nat
  | .mk _ _ _ joins => 1 + joinedCount joins

/-- The number of targets in a list of joins. -/
def joinedCount : List Join → Nat
  | [] => 0
  | join :: rest => countOfJoin join + joinedCount rest

/-- The number of targets in one join. -/
def countOfJoin : Join → Nat
  | .mk _ target _ => targetCount target

end

end Target

/-- The joined relation. -/
def Join.target : Join → Target
  | .mk _ target _ => target

/-- How the relation is joined. -/
def Join.joinType : Join → JoinType
  | .mk joinType _ _ => joinType

/-- The expression to sort by. -/
def SortKey.expression : SortKey → Expression
  | .mk expression _ => expression

/-- The direction of the key. -/
def SortKey.direction : SortKey → SortDirection
  | .mk _ direction => direction

/-- Whether rows have several columns. -/
def Projection.hasSeveralColumns : Projection → Bool
  | .properties _ | .selectAll => true
  | _ => false

namespace Filter

/-- A conjunction or disjunction without conditions. -/
def isVacuous : Filter → Bool
  | .and [] | .or [] => true
  | _ => false

/-- The name of a filter's form. -/
def formName : Filter → String
  | .isNull _ => "is-null"
  | .isNotNull _ => "is-not-null"
  | .compare _ _ _ => "compare"
  | .between _ _ _ => "between"
  | .isIn _ _ => "in"
  | .isNotIn _ _ => "not-in"
  | .stringMatch _ _ _ _ => "string-match"
  | .and _ => "and"
  | .or _ => "or"
  | .not _ => "not"
  | .hasRows _ => "exists"
  | .hasNoRows _ => "not-exists"

end Filter

namespace Expression

/-- The kind of a node. -/
def kind : Expression → ExpressionKind
  | .path _ => .path
  | .constant _ => .constant
  | .function _ => .function
  | .subQuery _ => .subQuery
  | .filter _ => .filter
  | .sort _ => .sort
  | .aggregation _ => .aggregation
  | .projection _ => .projection
  | .target _ => .target
  | .custom node => .custom node.nodeType node.kindName

/-- Nodes that stand for a value. -/
def isOperand : Expression → Bool
  | .path _ | .constant _ | .function _ | .subQuery _ | .custom _ => true
  | _ => false

/-- The value of a constant. -/
def constant? : Expression → Option Value
  | .constant value => some value
  | _ => none

mutual

/-- The type of the value that a node stands for. -/
def valueType : Expression → ValueType
  | .path found => found.valueType
  | .constant value => value.valueType
  | .function call => resultType call
  | .subQuery query => queryType query
  | .custom node => node.valueType
  | _ => .any

/-- The type of a function's result. -/
def resultType : FunctionCall → ValueType
  | .mk kind arguments _ =>
      match kind with
      | .count => .integer
      | .avg => .float
      | .sum | .min | .max => firstType arguments
      | .lower | .upper => .string
      | .year | .month | .day | .hour => .integer
      | .currentDate => .date
      | .currentTime => .time
      | .currentTimestamp => .dateTime

/-- The type of the first of some operands. -/
def firstType : List Expression → ValueType
  | [] => .any
  | first :: _ => valueType first

/-- The type of the value that a sub-query selects. -/
def queryType : SubQuery → ValueType
  | .mk _ _ selected _ => projectionType selected

/-- The type of a projection with one column. -/
def projectionType : Projection → ValueType
  | .path found => found.valueType
  | .function call => resultType call
  | .constant value => value.valueType
  | .countAll => .integer
  | _ => .any

end

end Expression

/-- The type of a function's result. -/
def FunctionCall.resultType (call : FunctionCall) : ValueType :=
  Expression.resultType call

/-- The type of a projection with one column. -/
def Projection.valueType (projection : Projection) : ValueType :=
  Expression.projectionType projection

end ObjectQuery
