import ObjectQuery.Operation.Basic
import ObjectQuery.Proofs.Sketch.Basic

/-!
# Sketches of nodes

The sketch of a node follows the resolvers of the library: which parts are resolved in which
order, where a type is expected of constants, and where a scope of its own begins.
-/

namespace ObjectQuery

open Sketch (words separated between junction calling named)

/-- An operand's sketch, between parentheses if the operand is a sub-query. -/
def Sketch.enclosing (operand : Expression) (inner : Sketch) : Sketch :=
  match operand with
  | .subQuery _ => between "(" inner ")"
  | _ => inner

/-- The subject of a string match, in small letters where case does not count. -/
def Sketch.subject (ignoreCase : Bool) (inner : Sketch) : Sketch :=
  if ignoreCase then .call .lower false inner else inner

/-- The right side of a string match. -/
def Expression.pattern (value : Expression) (mode : MatchMode) (ignoreCase : Bool) : Sketch :=
  .filling (.pattern ((value.constant?.bind Value.text?).getD "") mode ignoreCase)

open Sketch (enclosing subject)

mutual

/-- The sketch of an expression. -/
def Expression.sketch : Expression → Sketch
  | .path found => .mention (.property found)
  | .constant value => .filling (.constant value)
  | .function call => FunctionCall.sketch call
  | .subQuery query => SubQuery.sketch query
  | .filter condition => Filter.sketch condition
  | .sort keys => (words "ORDER BY ").append (separated ", " (SortKey.sketches keys))
  | .aggregation grouping => Aggregation.sketch grouping
  | .projection selected => Projection.sketch selected
  | .target target => Target.sketch target
  | .custom _ => words ""

/-- The sketch of each of some expressions. -/
def Expression.sketches : List Expression → List Sketch
  | [] => []
  | first :: rest => Expression.sketch first :: Expression.sketches rest

/-- The sketch of a function call. -/
def FunctionCall.sketch : FunctionCall → Sketch
  | .mk kind arguments distinct => calling kind distinct (Expression.sketches arguments)

/-- The sketch of a condition. -/
def Filter.sketch : Filter → Sketch
  | .isNull operand => (enclosing operand (Expression.sketch operand)).append (words " IS NULL")
  | .isNotNull operand =>
      (enclosing operand (Expression.sketch operand)).append (words " IS NOT NULL")
  | .compare left operator right =>
      (enclosing left (Expression.sketch left)).append ((words operator.symbol).append
        (enclosing right (.expecting left.valueType (Expression.sketch right))))
  | .between operand lower upper =>
      (enclosing operand (Expression.sketch operand)).append ((words " BETWEEN ").append
        ((enclosing lower (.expecting operand.valueType (Expression.sketch lower))).append
          ((words " AND ").append
            (enclosing upper (.expecting operand.valueType (Expression.sketch upper))))))
  | .isIn left right =>
      (enclosing left (Expression.sketch left)).append
        (between " IN (" (.expecting left.valueType (Expression.sketch right)) ")")
  | .isNotIn left right =>
      (enclosing left (Expression.sketch left)).append
        (between " NOT IN (" (.expecting left.valueType (Expression.sketch right)) ")")
  | .stringMatch left value mode ignoreCase =>
      (subject ignoreCase (enclosing left (Expression.sketch left))).append
        ((words " LIKE ").append (value.pattern mode ignoreCase))
  | .and conditions => junction "AND" (Filter.sketches conditions)
  | .or conditions => junction "OR" (Filter.sketches conditions)
  | .not condition => between "NOT (" (Filter.sketch condition) ")"
  | .hasRows query => between "EXISTS (" (SubQuery.sketch query) ")"
  | .hasNoRows query => between "NOT EXISTS (" (SubQuery.sketch query) ")"

/-- The sketch of each of some conditions. -/
def Filter.sketches : List Filter → List Sketch
  | [] => []
  | first :: rest => Filter.sketch first :: Filter.sketches rest

/-- The sketch of a condition that may be missing, after its words. -/
def Filter.sketchAfter (opening : String) : Option Filter → Sketch
  | none => words ""
  | some condition => (words opening).append (Filter.sketch condition)

/-- The sketch of a target's declaration and its joins. -/
def Target.sketch : Target → Sketch
  | .mk name entity aliasName joined =>
      (Sketch.declaration (.mk name entity aliasName joined)).append (Join.sketches joined)

/-- The sketch of a target's joins. -/
def Target.joinSketch : Target → Sketch
  | .mk _ _ _ joined => Join.sketches joined

/-- The sketch of some joins, one after the other. -/
def Join.sketches : List Join → Sketch
  | [] => words ""
  | first :: rest => (Join.sketch first).append (Join.sketches rest)

/-- The sketch of a join. -/
def Join.sketch : Join → Sketch
  | .mk joinType joined condition =>
      (words (" " ++ joinType.keyword ++ " ")).append ((Sketch.declaration joined).append
        ((Filter.sketchAfter " ON " condition).append (Target.joinSketch joined)))

/-- The sketch of each of some sort keys. -/
def SortKey.sketches : List SortKey → List Sketch
  | [] => []
  | first :: rest => SortKey.sketch first :: SortKey.sketches rest

/-- The sketch of a sort key. -/
def SortKey.sketch : SortKey → Sketch
  | .mk key direction => (Expression.sketch key).append (words (" " ++ direction.keyword))

/-- The sketch of a grouping. -/
def Aggregation.sketch : Aggregation → Sketch
  | .mk keys having =>
      ((words "GROUP BY ").append (separated ", " (Expression.sketches keys))).append
        (Filter.sketchAfter " HAVING " having)

/-- The sketch of a select list. -/
def Projection.sketch : Projection → Sketch
  | .path found => named (.mention (.property found)) found.aliasName
  | .function call => FunctionCall.sketch call
  | .constant value => .filling (.literal value)
  | .target name => .mention (.entity name)
  | .properties items => separated ", " (NamedProperty.sketches items)
  | .selectAll => .mention .attributes
  | .countAll => .call .count false (.mention .rows)

/-- The sketch of each of some projected properties. -/
def NamedProperty.sketches : List NamedProperty → List Sketch
  | [] => []
  | first :: rest => NamedProperty.sketch first :: NamedProperty.sketches rest

/-- The sketch of a projected property. -/
def NamedProperty.sketch : NamedProperty → Sketch
  | .mk name item => named (Expression.sketch item) (some name)

/-- The sketch of a sub-query. -/
def SubQuery.sketch : SubQuery → Sketch
  | .mk queried condition selected _ =>
      .nested (.select false (Target.sketch queried) (Filter.sketchAfter " WHERE " condition)
        (Projection.sketch selected))

end

theorem Expression.length_sketches (nodes : List Expression) :
    (Expression.sketches nodes).length = nodes.length := by
  induction nodes with
  | nil => rfl
  | cons first rest inductionHypothesis => simp [Expression.sketches, inductionHypothesis]

/-! ## Operations -/

/-- The sketch of a value that is assigned. -/
def Expression.assignedSketch (value : Expression) : Sketch :=
  match value with
  | .constant (.string text) => .filling (.assigned text)
  | other => other.sketch

namespace Operation

/-- The sketch of an assignment. -/
def assignmentSketch (assignment : Path × Expression) : Sketch :=
  (Sketch.mention (.property assignment.1)).append ((words "=").append
    (.expecting assignment.1.valueType assignment.2.assignedSketch))

/-- The sketch of the clauses after the source of a select. -/
def clauses (operation : Operation) : Sketch :=
  (Filter.sketchAfter " WHERE " operation.filter).append
    ((operation.aggregation.elim (words "") fun grouping => (words " ").append grouping.sketch).append
      (operation.sort.elim (words "") fun keys => (words " ").append (Expression.sort keys).sketch))

/-- The sketch of the statement of an operation. -/
def sketch (operation : Operation) : Sketch :=
  match operation.kind with
  | .select =>
      .select operation.distinct operation.target.sketch operation.clauses
        (operation.projection.getD Projection.entity).sketch
  | .update =>
      (words "UPDATE ").append ((Sketch.declaration operation.target).append
        ((words " SET ").append
          ((separated ", " (operation.values.map assignmentSketch)).append
            (Filter.sketchAfter " WHERE " operation.filter))))
  | .delete =>
      (words "DELETE FROM ").append ((Sketch.declaration operation.target).append
        (Filter.sketchAfter " WHERE " operation.filter))
  | .insert => words ""

end Operation
end ObjectQuery
