import ObjectQuery.Expression.Basic

/-!
# Building expressions

Short forms for the nodes that hosts write most often.
-/

namespace ObjectQuery

namespace Path

/-- A property of the root target. -/
def of (name : String) (valueType : ValueType) : Path :=
  .mk name valueType none none none

/-- A property whose type is not known. -/
def untyped (name : String) : Path :=
  of name .any

/-- The path inside an enclosing one. -/
def within : Path → Path → Path
  | .mk name valueType _ target aliasName, parent =>
      .mk name valueType (some parent) target aliasName

/-- The path as a property of a named target. -/
def ofTarget (target : String) : Path → Path
  | .mk name valueType parent _ aliasName => .mk name valueType parent (some target) aliasName

/-- The path with a selection alias. -/
def withAlias (aliasName : String) : Path → Path
  | .mk name valueType parent target _ => .mk name valueType parent target (some aliasName)

end Path

namespace FunctionCall

/-- A function of one argument. -/
def unary (kind : FunctionKind) (argument : Expression) : FunctionCall :=
  .mk kind [argument] false

/-- A function without arguments. -/
def niladic (kind : FunctionKind) : FunctionCall :=
  .mk kind [] false

/-- The call with equal values counted once. -/
def withDistinct : FunctionCall → FunctionCall
  | .mk kind arguments _ => .mk kind arguments true

end FunctionCall

namespace Filter

/-- A match of a fixed text, in the case in which it is written. -/
def matching (mode : MatchMode) (left : Expression) (text : String) : Filter :=
  .stringMatch left (.constant (.string text)) mode false

/-- The same string match without regard to case; other filters stay. -/
def ignoringCase : Filter → Filter
  | .stringMatch left value mode _ => .stringMatch left value mode true
  | other => other

/-- Membership in a list of values. -/
def inValues (left : Expression) (values : Value) : Filter :=
  .isIn left (.constant values)

/-- Absence from a list of values. -/
def notInValues (left : Expression) (values : Value) : Filter :=
  .isNotIn left (.constant values)

/-- Membership in the result of a sub-query. -/
def inQuery (left : Expression) (query : SubQuery) : Filter :=
  .isIn left (.subQuery query)

end Filter

namespace Target

/-- A target known by its logical name. -/
def named (name : String) : Target :=
  .mk name none none []

/-- The target with its entity given. -/
def withEntity (entity : String) : Target → Target
  | .mk name _ aliasName joins => .mk name (some entity) aliasName joins

/-- The target with its alias given. -/
def withAlias (aliasName : String) : Target → Target
  | .mk name entity _ joins => .mk name entity (some aliasName) joins

/-- The target with one more join. -/
def join (target : Target) (joinType : JoinType) (joined : Target)
    (condition : Option Filter) : Target :=
  .mk target.name target.entity target.aliasName
    (target.joins ++ [.mk joinType joined condition])

/-- A target joined with itself a number of times. -/
def selfJoin (name : String) : Nat → Target
  | 0 => named name
  | joins + 1 =>
      (selfJoin name joins).join .inner (named name)
        (some (.isNotNull (.path (Path.untyped "id"))))

end Target

/-- Grouping by keys, every group taken. -/
def Aggregation.by (keys : List Expression) : Aggregation :=
  .mk keys none

/-- The grouping with a condition on its groups. -/
def Aggregation.withHaving (condition : Filter) : Aggregation → Aggregation
  | .mk keys _ => .mk keys (some condition)

/-- The whole entity of the root target. -/
def Projection.entity : Projection :=
  .target none

namespace SubQuery

/-- A query over a target, every row taken. -/
def of (target : Target) (projection : Projection) : SubQuery :=
  .mk target none projection []

/-- The query with a condition on its rows. -/
def withFilter (condition : Filter) : SubQuery → SubQuery
  | .mk target _ projection correlations => .mk target (some condition) projection correlations

/-- The query with one more enclosing target that it reads. -/
def correlatedWith (name : String) : SubQuery → SubQuery
  | .mk target filter projection correlations =>
      .mk target filter projection (correlations ++ [name])

end SubQuery
end ObjectQuery
