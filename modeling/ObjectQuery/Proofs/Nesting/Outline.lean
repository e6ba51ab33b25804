import ObjectQuery.Dialect
import ObjectQuery.Operation.Basic
import ObjectQuery.Proofs.Nesting.Pieces

/-!
# Outlines of statements

The pieces of which the text of a node is made up, as far as the node and the spellings of
the functions tell. An outline holds every sub-query of the node; what is written for a path,
a constant or a target is a gap.
-/

namespace ObjectQuery

open Piece

/-! ## Calls -/

/-- A template, with the places of its argument as `none`; the first number counts the
characters of a mark that are still to be passed over. -/
def FunctionSpelling.places : Nat → List Char → List (Option Char)
  | _, [] => []
  | passed + 1, _ :: rest => places passed rest
  | 0, character :: rest =>
      if (placeholder 0).toList.isPrefixOf (character :: rest) then
        none :: places ((placeholder 0).toList.length - 1) rest
      else
        some character :: places 0 rest

/-- The pieces of a template with the pieces of an argument at its places. -/
def Piece.filled (argument : List Piece) : List (Option Char) → List Piece
  | [] => []
  | none :: rest => argument ++ filled argument rest
  | some character :: rest => .words (String.singleton character) :: filled argument rest

/-- The pieces of a call's first argument. -/
def Piece.marked (distinct : Bool) (argument : List Piece) : List Piece :=
  if distinct then .words "DISTINCT " :: argument else argument

/-- The pieces of a call. -/
def Dialect.callOutline (dialect : Dialect) (kind : FunctionKind) (distinct : Bool)
    (arguments : List (List Piece)) : List Piece :=
  match dialect.functions.find? dialect.platform kind, arguments with
  | none, _ => [.gap]
  | some spelling, [] => [.words spelling.template]
  | some spelling, first :: _ =>
      filled (marked distinct first) (FunctionSpelling.places 0 spelling.template.toList)

/-! ## Nodes -/

/-- An operand's pieces, between parentheses if it is a sub-query. -/
def Piece.enclosing (operand : Expression) (pieces : List Piece) : List Piece :=
  match operand with
  | .subQuery _ => .words "(" :: pieces ++ [.words ")"]
  | _ => pieces

/-- Conditions between parentheses, with a word between each two of them. -/
def Piece.junction (word : String) (conditions : List (List Piece)) : List Piece :=
  separated (" " ++ word ++ " ") (conditions.map fun pieces => .words "(" :: pieces ++ [.words ")"])

section

variable (dialect : Dialect)

mutual

/-- The pieces of an expression. -/
def Expression.outline : Expression → List Piece
  | .path _ | .constant _ | .custom _ => [.gap]
  | .function call => FunctionCall.outline call
  | .subQuery query => SubQuery.outline query
  | .filter condition => Filter.outline condition
  | .sort keys => .words "ORDER BY " :: separated ", " (SortKey.outlines keys)
  | .aggregation grouping => Aggregation.outline grouping
  | .projection selected => Projection.outline selected
  | .target target => Target.outline target

/-- The pieces of each of some expressions. -/
def Expression.outlines : List Expression → List (List Piece)
  | [] => []
  | first :: rest => Expression.outline first :: Expression.outlines rest

/-- The pieces of a function call. -/
def FunctionCall.outline : FunctionCall → List Piece
  | .mk kind arguments distinct =>
      dialect.callOutline kind distinct (Expression.outlines arguments)

/-- The pieces of a condition. -/
def Filter.outline : Filter → List Piece
  | .isNull operand => enclosing operand (Expression.outline operand) ++ [.words " IS NULL"]
  | .isNotNull operand =>
      enclosing operand (Expression.outline operand) ++ [.words " IS NOT NULL"]
  | .compare left operator right =>
      enclosing left (Expression.outline left) ++ .words operator.symbol ::
        enclosing right (Expression.outline right)
  | .between operand lower upper =>
      enclosing operand (Expression.outline operand) ++ .words " BETWEEN " ::
        (enclosing lower (Expression.outline lower) ++ .words " AND " ::
          enclosing upper (Expression.outline upper))
  | .isIn left right =>
      enclosing left (Expression.outline left) ++
        (.words " IN (" :: Expression.outline right ++ [.words ")"])
  | .isNotIn left right =>
      enclosing left (Expression.outline left) ++
        (.words " NOT IN (" :: Expression.outline right ++ [.words ")"])
  | .stringMatch left _ _ ignoreCase =>
      (if ignoreCase then
        dialect.callOutline .lower false [enclosing left (Expression.outline left)]
      else
        enclosing left (Expression.outline left)) ++ [.words " LIKE ", .gap]
  | .and conditions => junction "AND" (Filter.outlines conditions)
  | .or conditions => junction "OR" (Filter.outlines conditions)
  | .not condition => .words "NOT (" :: Filter.outline condition ++ [.words ")"]
  | .hasRows query => .words "EXISTS (" :: SubQuery.outline query ++ [.words ")"]
  | .hasNoRows query => .words "NOT EXISTS (" :: SubQuery.outline query ++ [.words ")"]

/-- The pieces of each of some conditions. -/
def Filter.outlines : List Filter → List (List Piece)
  | [] => []
  | first :: rest => Filter.outline first :: Filter.outlines rest

/-- The pieces of a condition that may be missing, after a word. -/
def Filter.clause (words : String) : Option Filter → List Piece
  | none => []
  | some condition => .words words :: Filter.outline condition

/-- The pieces of a target's declaration and its joins. -/
def Target.outline : Target → List Piece
  | .mk _ _ _ joined => .gap :: Join.outlines joined

/-- The pieces of a target's joins. -/
def Target.joinOutline : Target → List Piece
  | .mk _ _ _ joined => Join.outlines joined

/-- The pieces of some joins. -/
def Join.outlines : List Join → List Piece
  | [] => []
  | first :: rest => Join.outline first ++ Join.outlines rest

/-- The pieces of a join. -/
def Join.outline : Join → List Piece
  | .mk joinType joined condition =>
      .words (" " ++ joinType.keyword ++ " ") :: .gap ::
        (Filter.clause " ON " condition ++ Target.joinOutline joined)

/-- The pieces of each of some sort keys. -/
def SortKey.outlines : List SortKey → List (List Piece)
  | [] => []
  | first :: rest => SortKey.outline first :: SortKey.outlines rest

/-- The pieces of a sort key. -/
def SortKey.outline : SortKey → List Piece
  | .mk key direction => Expression.outline key ++ [.words (" " ++ direction.keyword)]

/-- The pieces of a grouping. -/
def Aggregation.outline : Aggregation → List Piece
  | .mk keys having =>
      .words "GROUP BY " :: separated ", " (Expression.outlines keys) ++
        Filter.clause " HAVING " having

/-- The pieces of a select list. -/
def Projection.outline : Projection → List Piece
  | .function call => FunctionCall.outline call
  | .properties items => separated ", " (NamedProperty.outlines items)
  | .path _ | .constant _ | .target _ | .selectAll | .countAll => [.gap]

/-- The pieces of each of some projected properties. -/
def NamedProperty.outlines : List NamedProperty → List (List Piece)
  | [] => []
  | first :: rest => NamedProperty.outline first :: NamedProperty.outlines rest

/-- The pieces of a projected property. -/
def NamedProperty.outline : NamedProperty → List Piece
  | .mk _ item => Expression.outline item ++ [.words " AS ", .gap]

/-- The pieces of a sub-query, without parentheses around them. -/
def SubQuery.outline : SubQuery → List Piece
  | .mk queried condition selected _ =>
      .select :: Projection.outline selected ++ .words " FROM " ::
        (Target.outline queried ++ (Filter.clause " WHERE " condition ++ [.finish]))

end

theorem Expression.length_outlines (nodes : List Expression) :
    (Expression.outlines dialect nodes).length = nodes.length := by
  induction nodes with
  | nil => rfl
  | cons first rest inductionHypothesis => simp [Expression.outlines, inductionHypothesis]

/-! ## Operations -/

/-- The pieces of an assignment. -/
def Operation.assignmentOutline (assignment : Path × Expression) : List Piece :=
  .gap :: .words "=" :: assignment.2.outline dialect

/-- The pieces of the statement of an operation. -/
def Operation.outline (operation : Operation) : List Piece :=
  match operation.kind with
  | .select =>
      .words "SELECT " :: marked operation.distinct
        ((operation.projection.getD Projection.entity).outline dialect ++ .words " FROM " ::
          (operation.target.outline dialect ++ Filter.clause dialect " WHERE " operation.filter ++
            (operation.aggregation.elim [] fun grouping =>
              .words " " :: grouping.outline dialect) ++
            (operation.sort.elim [] fun keys =>
              .words " " :: (Expression.sort keys).outline dialect)))
  | .update =>
      .words "UPDATE " :: .gap :: .words " SET " ::
        (separated ", " (operation.values.map (Operation.assignmentOutline dialect)) ++
          Filter.clause dialect " WHERE " operation.filter)
  | .delete => .words "DELETE FROM " :: .gap :: Filter.clause dialect " WHERE " operation.filter
  | .insert => [.gap]

end

end ObjectQuery
