import ObjectQuery.Proofs.Nesting.Outline
import ObjectQuery.Proofs.Spelling

/-!
# Where sub-queries are enclosed

Whether every sub-query of a node is enclosed depends on the node, on the spellings of its
calls, and on whether parentheses stand directly around the node. Operands of comparisons,
members of lists and conditions on rows have their own parentheses; sort keys, group keys,
projected properties and assigned values have none; in a call all depends on the spelling.
-/

namespace ObjectQuery

open Piece

/-- Whether an expression is a sub-query. -/
def Expression.isSubQuery : Expression → Bool
  | .subQuery _ => true
  | _ => false

/-- Something holds of each place of a call's argument, given whether parentheses stand
directly before and behind it there. -/
def Dialect.AtPlaces (dialect : Dialect) (kind : FunctionKind) (distinct : Bool)
    (argument : List Piece) (before after : Bool) (holds : Bool → Bool → Prop) : Prop :=
  ∀ spelling, dialect.functions.find? dialect.platform kind = some spelling →
    ∀ left right, FunctionSpelling.places 0 spelling.template.toList = left ++ none :: right →
      holds (!distinct && opened before (filled (marked distinct argument) left))
        (closed after (filled (marked distinct argument) right))

section

variable (closing : Bool) (dialect : Dialect)

mutual

/-- Every sub-query of an expression is enclosed, given whether parentheses stand directly
before and behind the expression. -/
def Expression.Encloses (before after : Bool) : Expression → Prop
  | .path _ | .constant _ | .custom _ => True
  | .function call => FunctionCall.Encloses before after call
  | .subQuery query => before = true ∧ (closing = true → after = true) ∧ SubQuery.Encloses query
  | .filter condition => Filter.Encloses before after condition
  | .sort keys => SortKey.AllEnclose keys
  | .aggregation grouping => Aggregation.Encloses after grouping
  | .projection selected => Projection.Encloses before after selected
  | .target target => Target.Encloses after target

/-- Every sub-query of some group keys is enclosed; only the last has something behind it. -/
def Expression.AllEnclose (after : Bool) : List Expression → Prop
  | [] => True
  | first :: rest =>
      Expression.Encloses false (rest.isEmpty && after) first ∧ Expression.AllEnclose after rest

/-- Every sub-query of a call is enclosed. -/
def FunctionCall.Encloses (before after : Bool) : FunctionCall → Prop
  | .mk _ [] _ => True
  | .mk kind (first :: _) distinct =>
      dialect.AtPlaces kind distinct (first.outline dialect) before after fun before after =>
        Expression.Encloses before after first

/-- Every sub-query of a condition is enclosed. -/
def Filter.Encloses (before after : Bool) : Filter → Prop
  | .isNull operand | .isNotNull operand =>
      Expression.Encloses (operand.isSubQuery || before) operand.isSubQuery operand
  | .compare left _ right =>
      Expression.Encloses (left.isSubQuery || before) left.isSubQuery left ∧
        Expression.Encloses right.isSubQuery (right.isSubQuery || after) right
  | .between operand lower upper =>
      Expression.Encloses (operand.isSubQuery || before) operand.isSubQuery operand ∧
        Expression.Encloses lower.isSubQuery lower.isSubQuery lower ∧
          Expression.Encloses upper.isSubQuery (upper.isSubQuery || after) upper
  | .isIn left right | .isNotIn left right =>
      Expression.Encloses (left.isSubQuery || before) left.isSubQuery left ∧
        Expression.Encloses true true right
  | .stringMatch left _ _ true =>
      dialect.AtPlaces .lower false (enclosing left (left.outline dialect)) before false
        fun before after =>
          Expression.Encloses (left.isSubQuery || before) (left.isSubQuery || after) left
  | .stringMatch left _ _ false =>
      Expression.Encloses (left.isSubQuery || before) left.isSubQuery left
  | .and conditions | .or conditions => Filter.AllEnclose conditions
  | .not condition => Filter.Encloses true true condition
  | .hasRows query | .hasNoRows query => SubQuery.Encloses query

/-- Every sub-query of some conditions is enclosed, each of them between parentheses. -/
def Filter.AllEnclose : List Filter → Prop
  | [] => True
  | first :: rest => Filter.Encloses true true first ∧ Filter.AllEnclose rest

/-- Every sub-query of a condition that may be missing is enclosed. -/
def Filter.ClauseEncloses (after : Bool) : Option Filter → Prop
  | none => True
  | some condition => Filter.Encloses false after condition

/-- Every sub-query of a target's joins is enclosed. -/
def Target.Encloses (after : Bool) : Target → Prop
  | .mk _ _ _ joined => Join.AllEnclose after joined

/-- Every sub-query of some joins is enclosed; only the last has something behind it. -/
def Join.AllEnclose (after : Bool) : List Join → Prop
  | [] => True
  | first :: rest => Join.Encloses (rest.isEmpty && after) first ∧ Join.AllEnclose after rest

/-- Every sub-query of a join is enclosed. -/
def Join.Encloses (after : Bool) : Join → Prop
  | .mk _ joined condition =>
      Filter.ClauseEncloses (joined.joins.isEmpty && after) condition ∧
        Target.Encloses after joined

/-- Every sub-query of some sort keys is enclosed. -/
def SortKey.AllEnclose : List SortKey → Prop
  | [] => True
  | first :: rest => SortKey.Encloses first ∧ SortKey.AllEnclose rest

/-- Every sub-query of a sort key is enclosed. -/
def SortKey.Encloses : SortKey → Prop
  | .mk key _ => Expression.Encloses false false key

/-- Every sub-query of a grouping is enclosed. -/
def Aggregation.Encloses (after : Bool) : Aggregation → Prop
  | .mk keys having =>
      Expression.AllEnclose (having.isNone && after) keys ∧ Filter.ClauseEncloses after having

/-- Every sub-query of a projection is enclosed. -/
def Projection.Encloses (before after : Bool) : Projection → Prop
  | .function call => FunctionCall.Encloses before after call
  | .properties items => NamedProperty.AllEnclose before items
  | .path _ | .constant _ | .target _ | .selectAll | .countAll => True

/-- Every sub-query of some properties is enclosed; only the first has something before it. -/
def NamedProperty.AllEnclose (before : Bool) : List NamedProperty → Prop
  | [] => True
  | first :: rest => NamedProperty.Encloses before first ∧ NamedProperty.AllEnclose false rest

/-- Every sub-query of a projected property is enclosed. -/
def NamedProperty.Encloses (before : Bool) : NamedProperty → Prop
  | .mk _ item => Expression.Encloses before false item

/-- Every sub-query within a sub-query is enclosed. -/
def SubQuery.Encloses : SubQuery → Prop
  | .mk queried condition selected _ =>
      Projection.Encloses false false selected ∧ Target.Encloses false queried ∧
        Filter.ClauseEncloses false condition

end

/-- Every sub-query of an operation is enclosed. -/
def Operation.Encloses (operation : Operation) : Prop :=
  match operation.kind with
  | .select =>
      (operation.projection.getD Projection.entity).Encloses closing dialect false false ∧
        operation.target.Encloses closing dialect false ∧
          Filter.ClauseEncloses closing dialect false operation.filter ∧
            (∀ grouping, operation.aggregation = some grouping →
              grouping.Encloses closing dialect false) ∧
              ∀ keys, operation.sort = some keys → SortKey.AllEnclose closing dialect keys
  | .update =>
      (∀ assignment ∈ operation.values, assignment.2.Encloses closing dialect false false) ∧
        Filter.ClauseEncloses closing dialect false operation.filter
  | .delete => Filter.ClauseEncloses closing dialect false operation.filter
  | .insert => True

end

namespace Piece

variable {closing before after : Bool}

/-! ## Pieces put together -/

theorem enclosed_enclosing (operand : Expression) (pieces : List Piece) :
    Enclosed closing before after (enclosing operand pieces) ↔
      Enclosed closing (operand.isSubQuery || before) (operand.isSubQuery || after) pieces := by
  cases operand with
  | subQuery query =>
      simp only [enclosing, Expression.isSubQuery, Bool.true_or]
      exact enclosed_around (by decide)
  | _ => simp [enclosing, Expression.isSubQuery]

theorem enclosed_marked (distinct : Bool) (argument : List Piece) :
    Enclosed closing before after (marked distinct argument) ↔
      Enclosed closing (!distinct && before) after argument := by
  cases distinct with
  | true =>
      simp only [marked, Bool.not_true, Bool.false_and, if_true]
      exact enclosed_after (by decide)
  | false => simp [marked]

/-- A filled template is enclosed when the argument is so at each of its places. -/
theorem enclosed_filled (argument : List Piece) (places : List (Option Char)) :
    Enclosed closing before after (filled argument places) ↔
      ∀ left right, places = left ++ none :: right →
        Enclosed closing (opened before (filled argument left)) (closed after (filled argument right))
          argument := by
  induction places generalizing before with
  | nil => simp [filled]
  | cons place places inductionHypothesis =>
      constructor
      · intro enclosed left right split
        cases left with
        | nil =>
            obtain ⟨rfl, rfl⟩ := List.cons.inj split
            rw [filled, enclosed_append] at enclosed
            exact enclosed.1
        | cons place' left =>
            obtain ⟨rfl, splitRest⟩ := List.cons.inj split
            cases place with
            | none =>
                rw [filled, enclosed_append] at enclosed
                rw [filled, opened_append]
                exact inductionHypothesis.mp enclosed.2 left right splitRest
            | some character =>
                rw [filled, enclosed_words] at enclosed
                rw [filled, opened_cons]
                exact inductionHypothesis.mp enclosed left right splitRest
      · intro each
        cases place with
        | none =>
            rw [filled, enclosed_append]
            refine ⟨each [] places rfl, inductionHypothesis.mpr fun left right split => ?_⟩
            rw [← opened_append]
            exact each (none :: left) right (by rw [split, List.cons_append])
        | some character =>
            rw [filled, enclosed_words]
            refine inductionHypothesis.mpr fun left right split => ?_
            rw [← opened_cons]
            exact each (some character :: left) right (by rw [split, List.cons_append])

/-- A call is enclosed when its first argument is so at each of its places. -/
theorem enclosed_call
    {dialect : Dialect}
    {kind : FunctionKind}
    {distinct : Bool}
    (first : List Piece)
    (rest : List (List Piece)) :
    Enclosed closing before after (dialect.callOutline kind distinct (first :: rest)) ↔
      dialect.AtPlaces kind distinct first before after fun before after =>
        Enclosed closing before after first := by
  unfold Dialect.callOutline Dialect.AtPlaces
  cases found : dialect.functions.find? dialect.platform kind with
  | none => simp
  | some spelling =>
      simp only [Option.some.injEq, forall_eq']
      rw [enclosed_filled]
      exact forall₃_congr fun left right split => enclosed_marked distinct first

theorem enclosed_junction (word : String) (conditions : List (List Piece)) :
    Enclosed closing before after (junction word conditions) ↔
      ∀ pieces ∈ conditions, Enclosed closing true true pieces := by
  have neutral : Neutral (" " ++ word ++ " ") := by
    refine ⟨fun empty => ?_, ?_, by simp⟩
    · simpa using congrArg String.toList empty
    · rw [String.toList_append, List.getLast?_append]
      simp
  unfold junction
  induction conditions generalizing before with
  | nil => simp [separated]
  | cons first rest inductionHypothesis =>
      rw [List.map_cons, enclosed_separated neutral, enclosed_around (by decide),
        List.forall_mem_cons]
      exact and_congr_right fun _ => inductionHypothesis

end Piece

section

variable {closing : Bool} {dialect : Dialect}

/-! ## Clauses and joins -/

theorem Filter.closed_clause {words : String} (neutral : Neutral words) (after : Bool)
    (condition : Option Filter) :
    closed after (Filter.clause dialect words condition) = (condition.isNone && after) := by
  cases condition with
  | none => simp [Filter.clause]
  | some condition => simp [Filter.clause, neutral.closes]

theorem JoinType.neutral_keyword (joinType : JoinType) :
    Neutral (" " ++ joinType.keyword ++ " ") := by
  cases joinType <;> decide

theorem Join.closed_outlines (after : Bool) (joined : List Join) :
    closed after (Join.outlines dialect joined) = (joined.isEmpty && after) := by
  cases joined with
  | nil => simp [Join.outlines]
  | cons first rest =>
      obtain ⟨joinType, target, condition⟩ := first
      simp only [Join.outlines, Join.outline, List.cons_append, closed_cons,
        joinType.neutral_keyword.closes, List.isEmpty_cons, Bool.false_and]

theorem Target.closed_joinOutline (after : Bool) (target : Target) :
    closed after (Target.joinOutline dialect target) = (target.joins.isEmpty && after) := by
  obtain ⟨name, entity, aliasName, joined⟩ := target
  exact Join.closed_outlines after joined

theorem CompareOperator.neutral_symbol (operator : CompareOperator) : Neutral operator.symbol := by
  rcases operator with _ | _ | inclusive | inclusive
  · decide
  · decide
  · cases inclusive <;> decide
  · cases inclusive <;> decide

theorem SortDirection.neutral_keyword (direction : SortDirection) :
    Neutral (" " ++ direction.keyword) := by
  cases direction <;> decide

/-! ## Nodes -/

mutual

/-- An expression's pieces are enclosed exactly where its sub-queries are. -/
theorem Expression.enclosed_outline :
    (node : Expression) → (before after : Bool) →
      (Enclosed closing before after (node.outline dialect) ↔
        node.Encloses closing dialect before after)
  | .path _, _, _ | .constant _, _, _ | .custom _, _, _ => by
      simp [Expression.outline, Expression.Encloses]
  | .function call, before, after => by
      rw [Expression.outline, Expression.Encloses, FunctionCall.enclosed_outline call]
  | .subQuery query, before, after => by
      rw [Expression.outline, Expression.Encloses, SubQuery.enclosed_outline query]
  | .filter condition, before, after => by
      rw [Expression.outline, Expression.Encloses, Filter.enclosed_outline condition]
  | .sort keys, before, after => by
      rw [Expression.outline, Expression.Encloses, enclosed_after (by decide),
        SortKey.enclosed_outlines keys]
  | .aggregation grouping, before, after => by
      rw [Expression.outline, Expression.Encloses, Aggregation.enclosed_outline grouping]
  | .projection selected, before, after => by
      rw [Expression.outline, Expression.Encloses, Projection.enclosed_outline selected]
  | .target found, before, after => by
      rw [Expression.outline, Expression.Encloses, Target.enclosed_outline found]

theorem Expression.enclosed_outlines :
    (nodes : List Expression) → (after : Bool) →
      (Enclosed closing false after (separated ", " (Expression.outlines dialect nodes)) ↔
        Expression.AllEnclose closing dialect after nodes)
  | [], _ => by simp [Expression.outlines, separated, Expression.AllEnclose]
  | first :: rest, after => by
      have last : (Expression.outlines dialect rest).isEmpty = rest.isEmpty := by
        cases rest <;> rfl
      rw [Expression.outlines, Expression.AllEnclose, enclosed_separated (by decide), last,
        Expression.enclosed_outline first, Expression.enclosed_outlines rest]

theorem FunctionCall.enclosed_outline :
    (call : FunctionCall) → (before after : Bool) →
      (Enclosed closing before after (call.outline dialect) ↔
        call.Encloses closing dialect before after)
  | .mk kind [] distinct, before, after => by
      simp only [FunctionCall.outline, FunctionCall.Encloses, Expression.outlines,
        Dialect.callOutline, iff_true]
      cases dialect.functions.find? dialect.platform kind with
      | none => simp
      | some spelling => simp
  | .mk kind (first :: rest) distinct, before, after => by
      rw [FunctionCall.outline, FunctionCall.Encloses, Expression.outlines, enclosed_call]
      simp only [Expression.enclosed_outline first]

theorem Filter.enclosed_outline :
    (condition : Filter) → (before after : Bool) →
      (Enclosed closing before after (condition.outline dialect) ↔
        condition.Encloses closing dialect before after)
  | .isNull operand, before, after | .isNotNull operand, before, after => by
      rw [Filter.outline, Filter.Encloses, enclosed_parted (by decide), enclosed_enclosing,
        Expression.enclosed_outline operand]
      simp
  | .compare left operator right, before, after => by
      rw [Filter.outline, Filter.Encloses, enclosed_parted operator.neutral_symbol,
        enclosed_enclosing, enclosed_enclosing, Expression.enclosed_outline left,
        Expression.enclosed_outline right, Bool.or_false, Bool.or_false]
  | .between operand lower upper, before, after => by
      rw [Filter.outline, Filter.Encloses, enclosed_parted (by decide), enclosed_parted (by decide),
        enclosed_enclosing, enclosed_enclosing, enclosed_enclosing,
        Expression.enclosed_outline operand, Expression.enclosed_outline lower,
        Expression.enclosed_outline upper, Bool.or_false, Bool.or_false, Bool.or_false]
  | .isIn left right, before, after | .isNotIn left right, before, after => by
      rw [Filter.outline, Filter.Encloses, enclosed_append, enclosed_around (by decide),
        List.cons_append, closed_cons, enclosed_enclosing, Expression.enclosed_outline left,
        Expression.enclosed_outline right]
      simp [closes]
  | .stringMatch left _ _ true, before, after => by
      rw [Filter.outline, Filter.Encloses, enclosed_parted (by decide), if_pos rfl, enclosed_call]
      simp only [enclosed_enclosing, Expression.enclosed_outline left]
      simp
  | .stringMatch left _ _ false, before, after => by
      rw [Filter.outline, Filter.Encloses, enclosed_parted (by decide), if_neg Bool.false_ne_true,
        enclosed_enclosing, Expression.enclosed_outline left]
      simp
  | .and conditions, before, after | .or conditions, before, after => by
      rw [Filter.outline, Filter.Encloses, enclosed_junction, Filter.enclosed_outlines conditions]
  | .not condition, before, after => by
      rw [Filter.outline, Filter.Encloses, enclosed_around (by decide),
        Filter.enclosed_outline condition]
  | .hasRows query, before, after | .hasNoRows query, before, after => by
      rw [Filter.outline, Filter.Encloses, enclosed_around (by decide),
        SubQuery.enclosed_outline query]
      simp

theorem Filter.enclosed_outlines :
    (conditions : List Filter) →
      ((∀ pieces ∈ Filter.outlines dialect conditions, Enclosed closing true true pieces) ↔
        Filter.AllEnclose closing dialect conditions)
  | [] => by simp [Filter.outlines, Filter.AllEnclose]
  | first :: rest => by
      rw [Filter.outlines, Filter.AllEnclose, List.forall_mem_cons, Filter.enclosed_outline first,
        Filter.enclosed_outlines rest]

theorem Filter.enclosed_clause {words : String} (neutral : Neutral words) :
    (condition : Option Filter) → (before after : Bool) →
      (Enclosed closing before after (Filter.clause dialect words condition) ↔
        Filter.ClauseEncloses closing dialect after condition)
  | none, _, _ => by simp [Filter.clause, Filter.ClauseEncloses]
  | some condition, before, after => by
      rw [Filter.clause, Filter.ClauseEncloses, enclosed_after neutral,
        Filter.enclosed_outline condition]

theorem Target.enclosed_outline :
    (found : Target) → (before after : Bool) →
      (Enclosed closing before after (found.outline dialect) ↔
        found.Encloses closing dialect after)
  | .mk _ _ _ joined, before, after => by
      rw [Target.outline, Target.Encloses, enclosed_gap, Join.enclosed_outlines joined]

theorem Join.enclosed_outlines :
    (joined : List Join) → (before after : Bool) →
      (Enclosed closing before after (Join.outlines dialect joined) ↔
        Join.AllEnclose closing dialect after joined)
  | [], _, _ => by simp [Join.outlines, Join.AllEnclose]
  | first :: rest, before, after => by
      rw [Join.outlines, Join.AllEnclose, enclosed_append, Join.closed_outlines,
        Join.enclosed_outline first, Join.enclosed_outlines rest]

theorem Join.enclosed_outline :
    (found : Join) → (before after : Bool) →
      (Enclosed closing before after (found.outline dialect) ↔
        found.Encloses closing dialect after)
  | .mk joinType (.mk name entity aliasName joined) condition, before, after => by
      rw [Join.outline, Join.Encloses, enclosed_after joinType.neutral_keyword, enclosed_gap,
        enclosed_append, Filter.enclosed_clause (by decide) condition, Target.closed_joinOutline,
        Target.joinOutline, Target.Encloses, Join.enclosed_outlines joined]

theorem SortKey.enclosed_outlines :
    (keys : List SortKey) → (after : Bool) →
      (Enclosed closing false after (separated ", " (SortKey.outlines dialect keys)) ↔
        SortKey.AllEnclose closing dialect keys)
  | [], _ => by simp [SortKey.outlines, separated, SortKey.AllEnclose]
  | first :: rest, after => by
      rw [SortKey.outlines, SortKey.AllEnclose, enclosed_separated (by decide),
        SortKey.enclosed_outline first, SortKey.enclosed_outlines rest]

theorem SortKey.enclosed_outline :
    (key : SortKey) → (after : Bool) →
      (Enclosed closing false after (key.outline dialect) ↔ key.Encloses closing dialect)
  | .mk key direction, after => by
      rw [SortKey.outline, SortKey.Encloses, enclosed_parted direction.neutral_keyword,
        Expression.enclosed_outline key, and_iff_left enclosed_nil]

theorem Aggregation.enclosed_outline :
    (grouping : Aggregation) → (before after : Bool) →
      (Enclosed closing before after (grouping.outline dialect) ↔
        grouping.Encloses closing dialect after)
  | .mk keys having, before, after => by
      have neutral : Neutral " HAVING " := by decide
      rw [Aggregation.outline, Aggregation.Encloses, enclosed_append, enclosed_after (by decide),
        Filter.closed_clause neutral, Expression.enclosed_outlines keys,
        Filter.enclosed_clause neutral having]

theorem Projection.enclosed_outline :
    (selected : Projection) → (before after : Bool) →
      (Enclosed closing before after (selected.outline dialect) ↔
        selected.Encloses closing dialect before after)
  | .function call, before, after => by
      rw [Projection.outline, Projection.Encloses, FunctionCall.enclosed_outline call]
  | .properties items, before, after => by
      rw [Projection.outline, Projection.Encloses, NamedProperty.enclosed_outlines items]
  | .path _, _, _ | .constant _, _, _ | .target _, _, _ | .selectAll, _, _ | .countAll, _, _ => by
      simp [Projection.outline, Projection.Encloses]

theorem NamedProperty.enclosed_outlines :
    (items : List NamedProperty) → (before after : Bool) →
      (Enclosed closing before after (separated ", " (NamedProperty.outlines dialect items)) ↔
        NamedProperty.AllEnclose closing dialect before items)
  | [], _, _ => by simp [NamedProperty.outlines, separated, NamedProperty.AllEnclose]
  | first :: rest, before, after => by
      rw [NamedProperty.outlines, NamedProperty.AllEnclose, enclosed_separated (by decide),
        NamedProperty.enclosed_outline first, NamedProperty.enclosed_outlines rest]

theorem NamedProperty.enclosed_outline :
    (item : NamedProperty) → (before after : Bool) →
      (Enclosed closing before after (item.outline dialect) ↔
        item.Encloses closing dialect before)
  | .mk _ item, before, after => by
      rw [NamedProperty.outline, NamedProperty.Encloses, enclosed_parted (by decide),
        Expression.enclosed_outline item]
      simp

theorem SubQuery.enclosed_outline :
    (query : SubQuery) → (before after : Bool) →
      (Enclosed closing before after (query.outline dialect) ↔
        before = true ∧ (closing = true → after = true) ∧ query.Encloses closing dialect)
  | .mk queried condition selected _, before, after => by
      have neutral : Neutral " WHERE " := by decide
      have ended : closed after [.finish] = false := rfl
      rw [SubQuery.outline, SubQuery.Encloses, enclosed_parted (by decide), enclosed_select,
        Projection.enclosed_outline selected, enclosed_append, enclosed_append, closed_append,
        ended, Filter.closed_clause neutral, Bool.and_false, Target.enclosed_outline queried,
        Filter.enclosed_clause neutral condition, enclosed_finish, closed_nil]
      constructor
      · rintro ⟨⟨starts, selects⟩, reads, filters, finishes, -⟩
        exact ⟨starts, finishes, selects, reads, filters⟩
      · rintro ⟨starts, finishes, selects, reads, filters⟩
        exact ⟨⟨starts, selects⟩, reads, filters, finishes, enclosed_nil⟩

end

end

/-! ## Standard spellings -/

/-- A standard spelling has one place, between its opening and a closing parenthesis. -/
theorem FunctionSpelling.places_standard
    {start : List Char}
    (unmarked : '\x7b' ∉ start) :
    places 0 (start ++ "\x7b0\x7d)".toList) = start.map some ++ [none, some ')'] := by
  have mark : (placeholder 0).toList = ['\x7b', '0', '\x7d'] := by decide
  have finish : "\x7b0\x7d)".toList = ['\x7b', '0', '\x7d', ')'] := by decide
  rw [finish]
  induction start with
  | nil => simp [places, mark, List.isPrefixOf]
  | cons character start inductionHypothesis =>
      simp only [List.mem_cons, not_or] at unmarked
      have different : ('\x7b' == character) = false := by simpa using unmarked.1
      simp [places, mark, List.isPrefixOf, different, inductionHypothesis unmarked.2]

theorem FunctionSpelling.eq_of_split
    {start : List Char}
    {left right : List (Option Char)}
    (split : start.map some ++ [none, some ')'] = left ++ none :: right) :
    left = start.map some ∧ right = [some ')'] := by
  induction start generalizing left with
  | nil =>
      rcases left with _ | ⟨first, _ | ⟨second, left⟩⟩
      · simpa using split.symm
      · simp at split
      · simp at split
  | cons character start inductionHypothesis =>
      cases left with
      | nil => simp at split
      | cons first left =>
          obtain ⟨rfl, splitRest⟩ := List.cons.inj split
          obtain ⟨rfl, rfl⟩ := inductionHypothesis splitRest
          exact ⟨rfl, rfl⟩

theorem Piece.filled_map_some (argument : List Piece) (characters : List Char) :
    filled argument (characters.map some) =
      characters.map fun character => .words (String.singleton character) := by
  induction characters with
  | nil => rfl
  | cons character rest inductionHypothesis =>
      rw [List.map_cons, filled, inductionHypothesis, List.map_cons]

theorem Piece.opens_singleton (before : Bool) (character : Char) :
    opens before (.words (String.singleton character)) = decide (character = '(') := by
  have visible : String.singleton character ≠ "" := by
    intro empty
    simpa using congrArg String.toList empty
  simp [opens, visible]

/-- In the standard spellings the argument of a call has a closing parenthesis behind it, and
an opening one before it where nothing is distinct and the opening ends with one. -/
theorem FunctionCall.encloses_standard_iff
    {closing before after distinct : Bool}
    {dialect : Dialect}
    {kind : FunctionKind}
    {first : Expression}
    {rest : List Expression}
    (standard : dialect.functions = SpellingRegistry.standard)
    (unary : kind.arity = 1) :
    (FunctionCall.mk kind (first :: rest) distinct).Encloses closing dialect before after ↔
      first.Encloses closing dialect
        (!distinct && (kind.opening dialect.platform).toList.getLast? = some '(') true := by
  obtain ⟨spelling, found, template, unmarked⟩ :=
    FunctionKind.standard_template dialect.platform unary
  have places := FunctionSpelling.places_standard unmarked
  obtain ⟨start, last, opening⟩ : ∃ start last,
      (kind.opening dialect.platform).toList = start ++ [last] := by
    have visible := kind.opening_ne_nil dialect.platform
    exact ⟨_, _, (List.dropLast_concat_getLast visible).symm⟩
  rw [FunctionCall.Encloses, Dialect.AtPlaces, standard, found]
  simp only [Option.some.injEq, forall_eq']
  rw [template, places]
  have before' (argument : List Piece) : opened before (filled argument
      ((kind.opening dialect.platform).toList.map some)) = decide (last = '(') := by
    rw [opening, filled_map_some, List.map_append, opened_append]
    exact opens_singleton _ last
  have after' (argument : List Piece) : closed after (filled argument [some ')']) = true := by
    simp [filled, closes]
  constructor
  · intro each
    have encloses := each _ _ rfl
    rw [before', after'] at encloses
    simpa [opening] using encloses
  · intro encloses left right split
    obtain ⟨rfl, rfl⟩ := FunctionSpelling.eq_of_split split
    rw [before', after']
    simpa [opening] using encloses

end ObjectQuery
