import ObjectQuery.Codec.NodeReader
import ObjectQuery.Codec.NodeWriter
import ObjectQuery.Proofs.RoundTrip.Values

/-!
# Nodes read back

A node is portable when there is a document for everything in it: it holds no custom node, no
floating point number that is not finite, and no leap second that a text cannot show. Portable
nodes are read back. The proof follows the mutual recursion of the writers; each reader looks at
the parts of its node in the order in which they were written, no deeper than they are nested.
-/

namespace ObjectQuery

/-! ## Portable nodes -/

mutual

/-- Whether there is a document for everything in a node. -/
def Expression.IsPortable : Expression → Prop
  | .path _ => True
  | .constant value => value.IsPortable
  | .function call => FunctionCall.IsPortable call
  | .subQuery query => SubQuery.IsPortable query
  | .filter condition => Filter.IsPortable condition
  | .sort keys => SortKey.ArePortable keys
  | .aggregation grouping => Aggregation.IsPortable grouping
  | .projection selected => Projection.IsPortable selected
  | .target found => Target.IsPortable found
  | .custom _ => False

/-- Whether there is a document for everything in some nodes. -/
def Expression.ArePortable : List Expression → Prop
  | [] => True
  | first :: rest => Expression.IsPortable first ∧ Expression.ArePortable rest

/-- Whether there is a document for everything in a call. -/
def FunctionCall.IsPortable : FunctionCall → Prop
  | .mk _ arguments _ => Expression.ArePortable arguments

/-- Whether there is a document for everything in a condition. -/
def Filter.IsPortable : Filter → Prop
  | .isNull operand | .isNotNull operand => Expression.IsPortable operand
  | .compare left _ right | .isIn left right | .isNotIn left right =>
      Expression.IsPortable left ∧ Expression.IsPortable right
  | .between operand lower upper =>
      Expression.IsPortable operand ∧ Expression.IsPortable lower ∧ Expression.IsPortable upper
  | .stringMatch left value _ _ => Expression.IsPortable left ∧ Expression.IsPortable value
  | .and conditions | .or conditions => Filter.ArePortable conditions
  | .not condition => Filter.IsPortable condition
  | .hasRows query | .hasNoRows query => SubQuery.IsPortable query

/-- Whether there is a document for everything in some conditions. -/
def Filter.ArePortable : List Filter → Prop
  | [] => True
  | first :: rest => Filter.IsPortable first ∧ Filter.ArePortable rest

/-- Whether there is a document for everything in a condition that may be missing. -/
def Filter.IsPortableIfAny : Option Filter → Prop
  | none => True
  | some condition => Filter.IsPortable condition

/-- Whether there is a document for everything in a target. -/
def Target.IsPortable : Target → Prop
  | .mk _ _ _ joins => Join.ArePortable joins

/-- Whether there is a document for everything in a join. -/
def Join.IsPortable : Join → Prop
  | .mk _ target condition => Target.IsPortable target ∧ Filter.IsPortableIfAny condition

/-- Whether there is a document for everything in some joins. -/
def Join.ArePortable : List Join → Prop
  | [] => True
  | first :: rest => Join.IsPortable first ∧ Join.ArePortable rest

/-- Whether there is a document for everything in a sort key. -/
def SortKey.IsPortable : SortKey → Prop
  | .mk key _ => Expression.IsPortable key

/-- Whether there is a document for everything in some sort keys. -/
def SortKey.ArePortable : List SortKey → Prop
  | [] => True
  | first :: rest => SortKey.IsPortable first ∧ SortKey.ArePortable rest

/-- Whether there is a document for everything in a grouping. -/
def Aggregation.IsPortable : Aggregation → Prop
  | .mk keys having => Expression.ArePortable keys ∧ Filter.IsPortableIfAny having

/-- Whether there is a document for everything in a projection. -/
def Projection.IsPortable : Projection → Prop
  | .function call => FunctionCall.IsPortable call
  | .constant value => value.IsPortable
  | .properties items => NamedProperty.ArePortable items
  | .path _ | .target _ | .selectAll | .countAll => True

/-- Whether there is a document for everything in a named property. -/
def NamedProperty.IsPortable : NamedProperty → Prop
  | .mk _ item => Expression.IsPortable item

/-- Whether there is a document for everything in some named properties. -/
def NamedProperty.ArePortable : List NamedProperty → Prop
  | [] => True
  | first :: rest => NamedProperty.IsPortable first ∧ NamedProperty.ArePortable rest

/-- Whether there is a document for everything in a sub-query. -/
def SubQuery.IsPortable : SubQuery → Prop
  | .mk target condition projection _ =>
      Target.IsPortable target ∧ Filter.IsPortableIfAny condition ∧
        Projection.IsPortable projection

end

/-! ## Documents of nodes -/

theorem Path.toJson_ne_null (path : Path) : path.toJson ≠ .null := by
  obtain ⟨_, _, parent, _, _⟩ := path
  cases parent <;> simp [toJson]

theorem Filter.toJson_ne_null (condition : Filter) : condition.toJson ≠ .null := by
  cases condition <;> simp [toJson, Json.tagged]

theorem Aggregation.toJson_ne_null (grouping : Aggregation) : grouping.toJson ≠ .null := by
  cases grouping
  rw [toJson]
  exact nofun

theorem Projection.toJson_ne_null (selected : Projection) : selected.toJson ≠ .null := by
  cases selected <;> simp [toJson, Json.tagged]

theorem Filter.toJsonOrNull_eq (condition : Option Filter) :
    Filter.toJsonOrNull condition = (condition.map Filter.toJson).getD .null := by
  cases condition <;> rfl

/-! ## Paths -/

theorem Path.reads : (path : Path) → path.toJson.ReadsAs NodeReader.path path
  | .mk name valueType parent target aliasName => .of_succ fun nesting bound => by
      let fields : List (String × Json) :=
        [("name", .string name), ("value_type", valueType.toJson),
          ("parent", (parent.map Path.toJson).getD .null), ("target", .ofText? target),
          ("alias", .ofText? aliasName)]
      have written : (Path.mk name valueType parent target aliasName).toJson = .object fields := by
        cases parent <;> simp [toJson, fields]
      have parents : Json.optional? (NodeReader.path nesting) "parent" fields = some parent := by
        refine Json.optional?_eq_some rfl (fun given _ => given.toJson_ne_null) fun given same => ?_
        subst same
        refine given.reads nesting ?_
        rw [written] at bound
        simp only [fields, Json.nesting, Json.nestingOfFields, max_le_iff,
          Nat.add_le_add_iff_right] at bound
        exact bound.2.2.1
      rw [written]
      show (do
        let valueType ← ValueType.ofJson? valueType.toJson
        let parent ← Json.optional? (NodeReader.path nesting) "parent" fields
        let target ← Json.optional? Json.text? "target" fields
        let aliasName ← Json.optional? Json.text? "alias" fields
        return Path.mk name valueType parent target aliasName) = _
      rw [ValueType.ofJson?_toJson, parents, @Json.optional?_text "target" fields target rfl,
        @Json.optional?_text "alias" fields aliasName rfl]
      rfl

namespace NodeReader

/-! ## Nodes -/

mutual

/-- A portable node is read back. -/
theorem expression_reads : (node : Expression) → node.IsPortable →
    node.toJson.ReadsAs expression node
  | .path found, _ => by
      rw [Expression.toJson]
      exact found.reads.tagged fun _ => rfl
  | .constant value, portable => .of_succ fun nesting bound => by
      simp only [Expression.IsPortable] at portable
      show (Value.ofJson? value.toJson).map Expression.constant = _
      rw [Value.ofJson?_toJson portable]
      rfl
  | .function call, portable => by
      simp only [Expression.IsPortable] at portable
      rw [Expression.toJson]
      exact (function_reads call portable).tagged fun _ => rfl
  | .subQuery query, portable => by
      simp only [Expression.IsPortable] at portable
      rw [Expression.toJson]
      exact (subQuery_reads query portable).tagged fun _ => rfl
  | .filter condition, portable => by
      simp only [Expression.IsPortable] at portable
      rw [Expression.toJson]
      exact (filter_reads condition portable).tagged fun _ => rfl
  | .sort keys, portable => by
      simp only [Expression.IsPortable] at portable
      rw [Expression.toJson]
      exact (sort_reads keys portable).tagged fun _ => rfl
  | .aggregation grouping, portable => by
      simp only [Expression.IsPortable] at portable
      rw [Expression.toJson]
      exact (aggregation_reads grouping portable).tagged fun _ => rfl
  | .projection selected, portable => by
      simp only [Expression.IsPortable] at portable
      rw [Expression.toJson]
      exact (projection_reads selected portable).tagged fun _ => rfl
  | .target found, portable => by
      simp only [Expression.IsPortable] at portable
      rw [Expression.toJson]
      exact (target_reads found portable).tagged fun _ => rfl
  | .custom node, portable => by
      simp only [Expression.IsPortable] at portable

theorem expressions_read : (nodes : List Expression) → Expression.ArePortable nodes →
    (nesting : Nat) → Json.nestingOfItems (Expression.toJsons nodes) ≤ nesting →
    (Expression.toJsons nodes).mapM (expression nesting) = some nodes
  | [], _, nesting, _ => rfl
  | first :: rest, portable, nesting, bound => by
      simp only [Expression.ArePortable] at portable
      simp only [Expression.toJsons, Json.nestingOfItems, max_le_iff] at bound
      rw [Expression.toJsons, List.mapM_cons,
        expression_reads first portable.1 nesting bound.1,
        expressions_read rest portable.2 nesting bound.2]
      rfl

theorem function_reads : (call : FunctionCall) → call.IsPortable →
    call.toJson.ReadsAs function call
  | .mk kind arguments distinct, portable => .of_succ fun nesting bound => by
      simp only [FunctionCall.IsPortable] at portable
      simp only [FunctionCall.toJson, Json.nesting, Json.nestingOfFields, max_le_iff,
        Nat.add_le_add_iff_right] at bound
      rw [FunctionCall.toJson]
      show (do
        let kind ← FunctionKind.ofJson? kind.toJson
        let arguments ← (Expression.toJsons arguments).mapM (expression nesting)
        return FunctionCall.mk kind arguments distinct) = _
      rw [FunctionKind.ofJson?_toJson,
        expressions_read arguments portable nesting (Nat.le_of_succ_le bound.2.1)]
      rfl

/-- A portable condition is read back. -/
theorem filter_reads : (condition : Filter) → condition.IsPortable →
    condition.toJson.ReadsAs filter condition
  | .isNull operand, portable | .isNotNull operand, portable => by
      simp only [Filter.IsPortable] at portable
      rw [Filter.toJson]
      exact (expression_reads operand portable).tagged fun _ => rfl
  | .compare left operator right, portable => .of_succ fun nesting bound => by
      simp only [Filter.IsPortable] at portable
      simp only [Filter.toJson, Json.nesting_tagged, Json.nesting, Json.nestingOfFields,
        Nat.add_le_add_iff_right] at bound
      rw [Filter.toJson]
      show (do
        let left ← expression nesting left.toJson
        let operator ← CompareOperator.ofJson? operator.toJson
        let right ← expression nesting right.toJson
        return Filter.compare left operator right) = _
      rw [expression_reads left portable.1 nesting (by omega), CompareOperator.ofJson?_toJson,
        expression_reads right portable.2 nesting (by omega)]
      rfl
  | .between operand lower upper, portable => .of_succ fun nesting bound => by
      simp only [Filter.IsPortable] at portable
      simp only [Filter.toJson, Json.nesting_tagged, Json.nesting, Json.nestingOfFields,
        Nat.add_le_add_iff_right] at bound
      rw [Filter.toJson]
      show (do
        let operand ← expression nesting operand.toJson
        let lower ← expression nesting lower.toJson
        let upper ← expression nesting upper.toJson
        return Filter.between operand lower upper) = _
      rw [expression_reads operand portable.1 nesting (by omega),
        expression_reads lower portable.2.1 nesting (by omega),
        expression_reads upper portable.2.2 nesting (by omega)]
      rfl
  | .isIn left right, portable => .of_succ fun nesting bound => by
      simp only [Filter.IsPortable] at portable
      simp only [Filter.toJson, Json.nesting_tagged, Json.nesting, Json.nestingOfFields,
        Nat.add_le_add_iff_right] at bound
      rw [Filter.toJson]
      show (do
        let left ← expression nesting left.toJson
        let right ← expression nesting right.toJson
        return Filter.isIn left right) = _
      rw [expression_reads left portable.1 nesting (by omega),
        expression_reads right portable.2 nesting (by omega)]
      rfl
  | .isNotIn left right, portable => .of_succ fun nesting bound => by
      simp only [Filter.IsPortable] at portable
      simp only [Filter.toJson, Json.nesting_tagged, Json.nesting, Json.nestingOfFields,
        Nat.add_le_add_iff_right] at bound
      rw [Filter.toJson]
      show (do
        let left ← expression nesting left.toJson
        let right ← expression nesting right.toJson
        return Filter.isNotIn left right) = _
      rw [expression_reads left portable.1 nesting (by omega),
        expression_reads right portable.2 nesting (by omega)]
      rfl
  | .stringMatch left value mode ignoreCase, portable => .of_succ fun nesting bound => by
      simp only [Filter.IsPortable] at portable
      simp only [Filter.toJson, Json.nesting_tagged, Json.nesting, Json.nestingOfFields,
        Nat.add_le_add_iff_right] at bound
      rw [Filter.toJson]
      show (do
        let left ← expression nesting left.toJson
        let value ← expression nesting value.toJson
        let mode ← MatchMode.ofJson? mode.toJson
        return Filter.stringMatch left value mode ignoreCase) = _
      rw [expression_reads left portable.1 nesting (by omega),
        expression_reads value portable.2 nesting (by omega), MatchMode.ofJson?_toJson]
      rfl
  | .and conditions, portable | .or conditions, portable => by
      simp only [Filter.IsPortable] at portable
      rw [Filter.toJson]
      exact (Json.ReadsAs.array (filters_read conditions portable)).tagged fun _ => rfl
  | .not condition, portable => by
      simp only [Filter.IsPortable] at portable
      rw [Filter.toJson]
      exact (filter_reads condition portable).tagged fun _ => rfl
  | .hasRows query, portable | .hasNoRows query, portable => by
      simp only [Filter.IsPortable] at portable
      rw [Filter.toJson]
      exact (subQuery_reads query portable).tagged fun _ => rfl

theorem filters_read : (conditions : List Filter) → Filter.ArePortable conditions →
    (nesting : Nat) → Json.nestingOfItems (Filter.toJsons conditions) ≤ nesting →
    (Filter.toJsons conditions).mapM (filter nesting) = some conditions
  | [], _, nesting, _ => rfl
  | first :: rest, portable, nesting, bound => by
      simp only [Filter.ArePortable] at portable
      simp only [Filter.toJsons, Json.nestingOfItems, max_le_iff] at bound
      rw [Filter.toJsons, List.mapM_cons, filter_reads first portable.1 nesting bound.1,
        filters_read rest portable.2 nesting bound.2]
      rfl

/-- A condition that may be missing is read back from a field for it. -/
theorem condition_reads : (condition : Option Filter) → Filter.IsPortableIfAny condition →
    (nesting : Nat) → (Filter.toJsonOrNull condition).nesting ≤ nesting →
    (name : String) → (fields : List (String × Json)) →
    Json.field? name fields = some (Filter.toJsonOrNull condition) →
    Json.optional? (filter nesting) name fields = some condition
  | none, _, nesting, _, name, fields, field => by
      rw [Json.optional?, field]
      rfl
  | some condition, portable, nesting, bound, name, fields, field => by
      simp only [Filter.IsPortableIfAny] at portable
      simp only [Filter.toJsonOrNull] at bound
      rw [Filter.toJsonOrNull_eq] at field
      refine Json.optional?_eq_some field (fun given _ => given.toJson_ne_null) ?_
      rintro _ ⟨⟩
      exact filter_reads condition portable nesting bound

/-- A portable target is read back. -/
theorem target_reads : (found : Target) → found.IsPortable → found.toJson.ReadsAs target found
  | .mk name entity aliasName joined, portable => .of_succ fun nesting bound => by
      simp only [Target.IsPortable] at portable
      simp only [Target.toJson, Json.nesting, Json.nestingOfFields, max_le_iff,
        Nat.add_le_add_iff_right] at bound
      let fields : List (String × Json) :=
        [("name", .string name), ("entity", .ofText? entity), ("alias", .ofText? aliasName),
          ("joins", .array (Join.toJsons joined))]
      rw [Target.toJson]
      show (do
        let entity ← Json.optional? Json.text? "entity" fields
        let aliasName ← Json.optional? Json.text? "alias" fields
        let joined ← (Join.toJsons joined).mapM (join nesting)
        return Target.mk name entity aliasName joined) = _
      rw [@Json.optional?_text "entity" fields entity rfl,
        @Json.optional?_text "alias" fields aliasName rfl,
        joins_read joined portable nesting (by omega)]
      rfl

theorem join_reads : (joined : Join) → joined.IsPortable → joined.toJson.ReadsAs join joined
  | .mk joinType found condition, portable => .of_succ fun nesting bound => by
      simp only [Join.IsPortable] at portable
      simp only [Join.toJson, Json.nesting, Json.nestingOfFields, max_le_iff,
        Nat.add_le_add_iff_right] at bound
      let fields : List (String × Json) :=
        [("join_type", joinType.toJson), ("target", found.toJson),
          ("on", Filter.toJsonOrNull condition)]
      rw [Join.toJson]
      show (do
        let joinType ← JoinType.ofJson? joinType.toJson
        let found ← target nesting found.toJson
        let condition ← Json.optional? (filter nesting) "on" fields
        return Join.mk joinType found condition) = _
      rw [JoinType.ofJson?_toJson, target_reads found portable.1 nesting bound.2.1,
        condition_reads condition portable.2 nesting (by omega) "on" fields rfl]
      rfl

theorem joins_read : (joined : List Join) → Join.ArePortable joined →
    (nesting : Nat) → Json.nestingOfItems (Join.toJsons joined) ≤ nesting →
    (Join.toJsons joined).mapM (join nesting) = some joined
  | [], _, nesting, _ => rfl
  | first :: rest, portable, nesting, bound => by
      simp only [Join.ArePortable] at portable
      simp only [Join.toJsons, Json.nestingOfItems, max_le_iff] at bound
      rw [Join.toJsons, List.mapM_cons, join_reads first portable.1 nesting bound.1,
        joins_read rest portable.2 nesting bound.2]
      rfl

/-- The portable keys of an order are read back. -/
theorem sort_reads : (keys : List SortKey) → SortKey.ArePortable keys →
    (SortKey.clauseToJson keys).ReadsAs sort keys
  | keys, portable => .of_succ fun nesting bound => by
      simp only [SortKey.clauseToJson, Json.nesting_tagged, Json.nesting,
        Nat.add_le_add_iff_right] at bound
      show (SortKey.toJsons keys).mapM (sortKey nesting) = _
      exact sortKeys_read keys portable nesting (Nat.le_of_succ_le bound)

theorem sortKey_reads : (key : SortKey) → key.IsPortable → key.toJson.ReadsAs sortKey key
  | .mk key direction, portable => .of_succ fun nesting bound => by
      simp only [SortKey.IsPortable] at portable
      simp only [SortKey.toJson, Json.nesting, Json.nestingOfFields, max_le_iff,
        Nat.add_le_add_iff_right] at bound
      rw [SortKey.toJson]
      show (do
        let key ← expression nesting key.toJson
        let direction ← SortDirection.ofJson? direction.toJson
        return SortKey.mk key direction) = _
      rw [expression_reads key portable nesting bound.1, SortDirection.ofJson?_toJson]
      rfl

theorem sortKeys_read : (keys : List SortKey) → SortKey.ArePortable keys →
    (nesting : Nat) → Json.nestingOfItems (SortKey.toJsons keys) ≤ nesting →
    (SortKey.toJsons keys).mapM (sortKey nesting) = some keys
  | [], _, nesting, _ => rfl
  | first :: rest, portable, nesting, bound => by
      simp only [SortKey.ArePortable] at portable
      simp only [SortKey.toJsons, Json.nestingOfItems, max_le_iff] at bound
      rw [SortKey.toJsons, List.mapM_cons, sortKey_reads first portable.1 nesting bound.1,
        sortKeys_read rest portable.2 nesting bound.2]
      rfl

/-- A portable grouping is read back. -/
theorem aggregation_reads : (grouping : Aggregation) → grouping.IsPortable →
    grouping.toJson.ReadsAs aggregation grouping
  | .mk keys having, portable => .of_succ fun nesting bound => by
      simp only [Aggregation.IsPortable] at portable
      simp only [Aggregation.toJson, Json.nesting, Json.nestingOfFields, max_le_iff,
        Nat.add_le_add_iff_right] at bound
      let fields : List (String × Json) :=
        [("group_by", .array (Expression.toJsons keys)), ("having", Filter.toJsonOrNull having)]
      rw [Aggregation.toJson]
      show (do
        let keys ← (Expression.toJsons keys).mapM (expression nesting)
        let having ← Json.optional? (filter nesting) "having" fields
        return Aggregation.mk keys having) = _
      rw [expressions_read keys portable.1 nesting (Nat.le_of_succ_le bound.1),
        condition_reads having portable.2 nesting bound.2.1 "having" fields rfl]
      rfl

/-- A portable projection is read back. -/
theorem projection_reads : (selected : Projection) → selected.IsPortable →
    selected.toJson.ReadsAs projection selected
  | .path found, _ => by
      rw [Projection.toJson]
      exact found.reads.tagged fun _ => rfl
  | .function call, portable => by
      simp only [Projection.IsPortable] at portable
      rw [Projection.toJson]
      exact (function_reads call portable).tagged fun _ => rfl
  | .constant value, portable => .of_succ fun nesting bound => by
      simp only [Projection.IsPortable] at portable
      show (Value.ofJson? value.toJson).map Projection.constant = _
      rw [Value.ofJson?_toJson portable]
      rfl
  | .target name, _ => .of_succ fun nesting bound => by
      show (do
        let name ← Json.optional? Json.text? "name" [("name", Json.ofText? name)]
        return Projection.target name) = _
      rw [@Json.optional?_text "name" _ name rfl]
      rfl
  | .properties items, portable => by
      simp only [Projection.IsPortable] at portable
      rw [Projection.toJson]
      exact (Json.ReadsAs.array (projectionItems_read items portable)).tagged fun _ => rfl
  | .selectAll, _ => .of_succ fun nesting bound => rfl
  | .countAll, _ => .of_succ fun nesting bound => rfl

theorem projectionItem_reads : (item : NamedProperty) → item.IsPortable →
    item.toJson.ReadsAs projectionItem item
  | .mk name item, portable => .of_succ fun nesting bound => by
      simp only [NamedProperty.IsPortable] at portable
      simp only [NamedProperty.toJson, Json.nesting, Json.nestingOfFields, max_le_iff,
        Nat.add_le_add_iff_right] at bound
      rw [NamedProperty.toJson]
      show (do
        let item ← expression nesting item.toJson
        return NamedProperty.mk name item) = _
      rw [expression_reads item portable nesting bound.2.1]
      rfl

theorem projectionItems_read : (items : List NamedProperty) → NamedProperty.ArePortable items →
    (nesting : Nat) → Json.nestingOfItems (NamedProperty.toJsons items) ≤ nesting →
    (NamedProperty.toJsons items).mapM (projectionItem nesting) = some items
  | [], _, nesting, _ => rfl
  | first :: rest, portable, nesting, bound => by
      simp only [NamedProperty.ArePortable] at portable
      simp only [NamedProperty.toJsons, Json.nestingOfItems, max_le_iff] at bound
      rw [NamedProperty.toJsons, List.mapM_cons,
        projectionItem_reads first portable.1 nesting bound.1,
        projectionItems_read rest portable.2 nesting bound.2]
      rfl

/-- A portable sub-query is read back. -/
theorem subQuery_reads : (query : SubQuery) → query.IsPortable →
    query.toJson.ReadsAs subQuery query
  | .mk queried condition selected correlations, portable => .of_succ fun nesting bound => by
      simp only [SubQuery.IsPortable] at portable
      simp only [SubQuery.toJson, Json.nesting, Json.nestingOfFields, max_le_iff,
        Nat.add_le_add_iff_right] at bound
      let fields : List (String × Json) :=
        [("target", queried.toJson), ("filter", Filter.toJsonOrNull condition),
          ("projection", selected.toJson), ("correlations", .ofTexts correlations)]
      rw [SubQuery.toJson]
      show (do
        let queried ← target nesting queried.toJson
        let condition ← Json.optional? (filter nesting) "filter" fields
        let selected ← projection nesting selected.toJson
        let correlations ← Json.list? Json.text? (.ofTexts correlations)
        return SubQuery.mk queried condition selected correlations) = _
      rw [target_reads queried portable.1 nesting bound.1,
        condition_reads condition portable.2.1 nesting bound.2.1 "filter" fields rfl,
        projection_reads selected portable.2.2 nesting bound.2.2.1, Json.list?_ofTexts]
      rfl

end

end NodeReader
end ObjectQuery
