import ObjectQuery.Codec.Operation
import ObjectQuery.Expression.Standard
import ObjectQuery.Proofs.RoundTrip.Nodes
import ObjectQuery.Proofs.Tables
import ObjectQuery.Sample

/-!
# Operations read back

A portable operation and a portable node of any nesting are what is read from their documents.
Hints come back because they are already in order of name, limits and offsets because they were
words of sixty-four bits before they were numbers.
-/

namespace ObjectQuery

/-! ## Hints -/

@[simp] theorem Hints.ofJson?_toJson (hints : Hints) : ofJson? hints.toJson = some hints := by
  obtain ⟨entries, sorted⟩ := hints
  let fields : List (String × Json) := entries.map fun entry => (entry.1, .string entry.2)
  have listed : fields.mapM entryOf? = some entries := Json.items_read fun _ _ => rfl
  show (do
    let read ← fields.mapM entryOf?
    return ofEntries read) = _
  rw [listed]
  simp only [Option.bind_eq_bind, Option.bind_some, Option.pure_def, ofEntries,
    Table.sort_of_sorted sorted]

/-! ## Words of sixty-four bits -/

theorem Json.optional?_word
    {name : String}
    {fields : List (String × Json)}
    {found : Option UInt64}
    (field : field? name fields = some (.ofWord? found)) :
    optional? word? name fields = some (found.map UInt64.toNat) := by
  rw [optional?, field]
  cases found with
  | none => rfl
  | some number =>
      have bounds : 0 ≤ (number.toNat : Int) ∧ (number.toNat : Int) < UInt64.size :=
        ⟨Int.natCast_nonneg _, Int.ofNat_lt.mpr number.toNat_lt⟩
      simp only [ofWord?, ofNat, word?, int?, if_pos bounds, Int.toNat_natCast, Option.map_some]

theorem Json.ofWords_toNat (found : Option UInt64) :
    (found.map UInt64.toNat).map UInt64.ofNat = found := by
  cases found <;> simp

/-! ## Operations -/

namespace Operation

/-- Whether there is a document for everything in an operation. -/
structure IsPortable (operation : Operation) : Prop where
  target : operation.target.IsPortable
  filter : Filter.IsPortableIfAny operation.filter
  aggregation : ∀ grouping, operation.aggregation = some grouping → grouping.IsPortable
  sort : ∀ keys, operation.sort = some keys → SortKey.ArePortable keys
  projection : ∀ selected, operation.projection = some selected → selected.IsPortable
  values : ∀ assignment ∈ operation.values, assignment.2.IsPortable

theorem assignmentOf?_assignmentToJson
    {assignment : Path × Expression}
    (portable : assignment.2.IsPortable) :
    assignmentOf? (assignmentToJson assignment) = some assignment := by
  obtain ⟨path, value⟩ := assignment
  have assigned : Path.ofJson? path.toJson = some path := path.reads _ le_rfl
  have given : Expression.ofJson? value.toJson = some value :=
    NodeReader.expression_reads value portable _ le_rfl
  show (do
    let path ← Path.ofJson? path.toJson
    let value ← Expression.ofJson? value.toJson
    return (path, value)) = _
  rw [assigned, given]
  rfl

/-- A portable operation is read back. -/
theorem ofJson?_toJson {operation : Operation} (portable : operation.IsPortable) :
    ofJson? operation.toJson = some operation := by
  obtain ⟨kind, found, condition, grouping, order, selected, limit, offset, distinct, values,
    lockMode, hints⟩ := operation
  obtain ⟨found_portable, condition_portable, grouping_portable, order_portable,
    selected_portable, values_portable⟩ := portable
  let fields : List (String × Json) :=
    [("kind", kind.toJson), ("target", found.toJson), ("filter", Filter.toJsonOrNull condition),
      ("aggregation", (grouping.map Aggregation.toJson).getD .null),
      ("sort", (order.map SortKey.clauseToJson).getD .null),
      ("projection", (selected.map Projection.toJson).getD .null), ("limit", .ofWord? limit),
      ("offset", .ofWord? offset), ("distinct", .bool distinct),
      ("values", .array (values.map assignmentToJson)), ("lock_mode", lockMode.toJson),
      ("hints", hints.toJson)]
  have root : Target.ofJson? found.toJson = some found :=
    NodeReader.target_reads found found_portable _ le_rfl
  have filtered : Json.optional? Filter.ofJson? "filter" fields = some condition := by
    refine Json.optional?_eq_some (congrArg some (Filter.toJsonOrNull_eq condition))
      (fun given _ => given.toJson_ne_null) ?_
    rintro given rfl
    exact NodeReader.filter_reads given condition_portable _ le_rfl
  have grouped : Json.optional? Aggregation.ofJson? "aggregation" fields = some grouping :=
    Json.optional?_eq_some rfl (fun given _ => given.toJson_ne_null) fun given same =>
      NodeReader.aggregation_reads given (grouping_portable given same) _ le_rfl
  have ordered : Json.optional? SortKey.clauseOfJson? "sort" fields = some order :=
    Json.optional?_eq_some rfl (fun _ _ => nofun) fun given same =>
      NodeReader.sort_reads given (order_portable given same) _ le_rfl
  have projected : Json.optional? Projection.ofJson? "projection" fields = some selected :=
    Json.optional?_eq_some rfl (fun given _ => given.toJson_ne_null) fun given same =>
      NodeReader.projection_reads given (selected_portable given same) _ le_rfl
  have assigned : (values.map assignmentToJson).mapM assignmentOf? = some values :=
    Json.items_read fun assignment among =>
      assignmentOf?_assignmentToJson (values_portable assignment among)
  show (do
    let kind ← OperationKind.ofJson? kind.toJson
    let target ← Target.ofJson? found.toJson
    let filter ← Json.optional? Filter.ofJson? "filter" fields
    let aggregation ← Json.optional? Aggregation.ofJson? "aggregation" fields
    let sort ← Json.optional? SortKey.clauseOfJson? "sort" fields
    let projection ← Json.optional? Projection.ofJson? "projection" fields
    let limit ← Json.optional? Json.word? "limit" fields
    let offset ← Json.optional? Json.word? "offset" fields
    let values ← (values.map assignmentToJson).mapM assignmentOf?
    let lockMode ← LockMode.ofJson? lockMode.toJson
    let hints ← Hints.ofJson? hints.toJson
    return Operation.mk kind target filter aggregation sort projection
      (limit.map UInt64.ofNat) (offset.map UInt64.ofNat) distinct values lockMode hints) = _
  rw [OperationKind.ofJson?_toJson, root, filtered, grouped, ordered, projected,
    @Json.optional?_word "limit" fields limit rfl,
    @Json.optional?_word "offset" fields offset rfl, assigned, LockMode.ofJson?_toJson,
    Hints.ofJson?_toJson]
  simp only [Option.bind_eq_bind, Option.bind_some, Option.pure_def, Json.ofWords_toNat]

end Operation

/-! ## Nodes -/

/-- Of a constant without infinite floats the constant is read that its text shows. -/
theorem Expression.ofJson?_toJson_constant {value : Value} (finite : value.HasFiniteFloats) :
    ofJson? (constant value).toJson = some (.constant value.asWritten) := by
  show (Value.ofJson? value.toJson).map Expression.constant = _
  rw [Value.ofJson?_toJson_asWritten finite]
  rfl

/-- What is written of a node is read as that node, at any nesting: of a whole operation and of
an expression, as long as there is a document for everything in it. A constant with a leap second
that no text can show is read as another one. -/
theorem documents_readBack :
    (∀ operation : Operation, operation.IsPortable →
      Operation.ofJson? operation.toJson = some operation) ∧
      (∀ node : Expression, node.IsPortable → Expression.ofJson? node.toJson = some node) ∧
      ∀ value : Value, value.HasFiniteFloats →
        (Expression.ofJson? (Expression.constant value).toJson = some (.constant value) ↔
          value.HasWritableTimes) := by
  refine ⟨fun _ portable => Operation.ofJson?_toJson portable,
    fun node portable => NodeReader.expression_reads node portable _ le_rfl,
    fun value finite => ?_⟩
  rw [Expression.ofJson?_toJson_constant finite, Option.some.injEq, Expression.constant.injEq,
    value.asWritten_eq_iff]

/-- The middle of the leap second after seven seconds past half past ten is read back as the
middle of the eighth second. -/
theorem leapSecond_readOtherwise :
    let leap : TimeOfDay := ⟨10, 30, 7, 1500000000, by decide, by decide, by decide, by decide⟩
    let eighth : TimeOfDay := ⟨10, 30, 8, 500000000, by decide, by decide, by decide, by decide⟩
    let node := Expression.constant (.time leap)
    node.isStandard = true ∧ (Value.time leap).HasFiniteFloats ∧
      Expression.ofJson? node.toJson = some (.constant (.time eighth)) ∧
      Expression.ofJson? node.toJson ≠ some node := by
  intro leap eighth node
  have finite : (Value.time leap).HasFiniteFloats := by simp only [Value.HasFiniteFloats]
  have shown : (Value.time leap).asWritten = .time eighth := by
    simp only [Value.asWritten, Value.time.injEq]
    decide
  have read : Expression.ofJson? node.toJson = some (.constant (.time eighth)) := by
    rw [Expression.ofJson?_toJson_constant finite, shown]
  have unlike : leap ≠ eighth := by decide
  refine ⟨rfl, finite, read, ?_⟩
  rw [read]
  simpa [node] using unlike.symm

namespace Sample

/-- Whether the greatest total is not among two amounts, one of them in a list of its own. -/
def unusualTotal : Filter :=
  .not (.isIn (.function (.mk .max [.path total] true))
    (.constant (.list [.list [.float (Binary64.ofInt 10)], .decimal "19.99"])))

/-- Customers joined to their orders, without any order placed since a moment. -/
def quietCustomers (moment : DateTime) : Operation :=
  let placed : Filter :=
    .compare (.path (.mk "at" .dateTime (some placedOn) (some "o") none)) (.less true)
      (.constant (.dateTime moment))
  let orders : SubQuery :=
    .mk (Target.named "order") (some (.and [placed, unusualTotal])) .countAll ["customer"]
  { Operation.of .select
      (.mk "customer" none (some "c") [.mk .left (Target.named "order") (some placed)]) with
    filter := some (.or [.hasNoRows orders, .isNull (.subQuery orders)])
    sort := some [.mk (.projection (.target (some "c"))) .descending]
    limit := some 20
    hints := Hints.none.insert "timeout" "5s" }

end Sample

theorem quietCustomers_readBack :
    let lastSecond : TimeOfDay :=
      ⟨23, 59, 59, 1500000000, by decide, by decide, by decide, by decide⟩
    (Sample.quietCustomers (.startOf .epoch)).IsPortable ∧
      Sample.unusualTotal.IsPortable ∧
      Operation.ofJson? (Sample.quietCustomers (.startOf .epoch)).toJson =
        some (Sample.quietCustomers (.startOf .epoch)) ∧
      Expression.ofJson? (Expression.filter Sample.unusualTotal).toJson =
        some (.filter Sample.unusualTotal) ∧
      Expression.ofJson? (Expression.constant (.time lastSecond)).toJson =
        some (.constant (.time lastSecond)) := by
  intro lastSecond
  have amounts : (Value.list [.list [.float (Binary64.ofInt 10)], .decimal "19.99"]).IsPortable :=
    ⟨by simp only [Value.HasFiniteFloats, Value.HaveFiniteFloats]; decide,
      by simp only [Value.HasWritableTimes, Value.HaveWritableTimes, and_self]⟩
  have moment : (Value.dateTime (.startOf .epoch)).IsPortable :=
    ⟨by simp only [Value.HasFiniteFloats], by simp only [Value.HasWritableTimes]; decide⟩
  have unusual : Sample.unusualTotal.IsPortable := by
    simp [Sample.unusualTotal, Filter.IsPortable, Expression.IsPortable, FunctionCall.IsPortable,
      Expression.ArePortable, amounts]
  have portable : (Sample.quietCustomers (.startOf .epoch)).IsPortable := by
    constructor <;>
      simp [Sample.quietCustomers, Operation.of, Target.named, Target.IsPortable,
        Join.ArePortable, Join.IsPortable, Filter.IsPortableIfAny, Filter.IsPortable,
        Filter.ArePortable, SubQuery.IsPortable, Projection.IsPortable, Expression.IsPortable,
        SortKey.ArePortable, SortKey.IsPortable, moment, unusual]
  refine ⟨portable, unusual, documents_readBack.1 _ portable, documents_readBack.2.1 _ ?_,
    (documents_readBack.2.2 _ ?_).mpr ?_⟩
  · simpa only [Expression.IsPortable] using unusual
  · simp only [Value.HasFiniteFloats]
  · simp only [Value.HasWritableTimes]
    decide

end ObjectQuery
