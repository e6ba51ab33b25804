import ObjectQuery.Proofs.Inquiries.Basic

/-!
# A check covers every inquiry

The registry checks a node each time that it is asked about one. A node whose own check is
passed leads to inquiries only about nodes that pass theirs: the check of a node goes through
all parts that its resolver asks about, in whatever role they stand there.
-/

namespace ObjectQuery

/-- The node of an inquiry passes its check. -/
def Inquiry.Passes (inquiry : Inquiry) : Prop :=
  inquiry.node.validate = .ok ()

/-- The node of each of some inquiries passes its check. -/
def Inquiry.AllPass (inquiries : List Inquiry) : Prop :=
  ∀ inquiry ∈ inquiries, inquiry.Passes

namespace Inquiry

@[simp]
theorem allPass_nil : AllPass [] :=
  List.forall_mem_nil _

@[simp]
theorem allPass_cons {depth : Nat} {node : Expression} {rest : List Inquiry} :
    AllPass (⟨depth, node⟩ :: rest) ↔ Validation.expression node = .ok () ∧ AllPass rest :=
  List.forall_mem_cons

@[simp]
theorem allPass_append {first second : List Inquiry} :
    AllPass (first ++ second) ↔ AllPass first ∧ AllPass second :=
  List.forall_mem_append

end Inquiry

namespace Validation

open Inquiry

mutual

/-- The check of a node covers the inquiries about its parts. -/
theorem expression_covers (depth : Nat) :
    (node : Expression) → expression node = .ok () → AllPass (node.inquiries depth)
  | .path _, _ | .constant _, _ | .custom _, _ => by simp only [Expression.inquiries, allPass_nil]
  | .function call, valid => by
      simp only [Expression.inquiries]
      exact function_covers depth call valid
  | .subQuery query, valid => by
      simp only [Expression.inquiries]
      exact subQuery_covers depth query valid
  | .filter condition, valid => by
      simp only [Expression.inquiries]
      exact filter_covers depth condition valid
  | .sort keys, valid => by
      simp only [Expression.inquiries]
      simp only [expression, andThen_ok_iff] at valid
      exact sortKeys_covers depth keys valid.2
  | .aggregation grouping, valid => by
      simp only [Expression.inquiries]
      exact aggregation_covers depth grouping valid
  | .projection selected, valid => by
      simp only [Expression.inquiries]
      exact projection_covers depth selected valid
  | .target found, valid => by
      simp only [Expression.inquiries]
      exact target_covers depth found valid

theorem function_covers (depth : Nat) :
    (call : FunctionCall) → function call = .ok () → AllPass (call.inquiries depth)
  | .mk kind arguments distinct, valid => by
      simp only [FunctionCall.inquiries]
      simp only [function, andThen_ok_iff] at valid
      exact functionArguments_covers depth kind arguments valid.2.2

theorem functionArguments_covers (depth : Nat) (kind : FunctionKind) :
    (arguments : List Expression) → functionArguments kind arguments = .ok () →
      AllPass (Expression.eachInquiries depth arguments)
  | [], _ => by simp only [Expression.eachInquiries, allPass_nil]
  | argument :: rest, valid => by
      simp only [functionArguments, andThen_ok_iff] at valid
      obtain ⟨-, checked, others⟩ := valid
      simp only [Expression.eachInquiries, allPass_append, allPass_cons]
      exact ⟨⟨checked, expression_covers depth argument checked⟩,
        functionArguments_covers depth kind rest others⟩

theorem filter_covers (depth : Nat) :
    (condition : Filter) → filter condition = .ok () → AllPass (condition.inquiries depth)
  | .isNull operand, valid | .isNotNull operand, valid => by
      simp only [filter, andThen_ok_iff] at valid
      simp only [Filter.inquiries, allPass_cons]
      exact ⟨valid.2, expression_covers depth operand valid.2⟩
  | .compare left operator right, valid => by
      simp only [filter, andThen_ok_iff] at valid
      obtain ⟨-, checkedLeft, -, checkedRight, -⟩ := valid
      simp only [Filter.inquiries, allPass_append, allPass_cons]
      exact ⟨⟨checkedLeft, expression_covers depth left checkedLeft⟩,
        checkedRight, expression_covers depth right checkedRight⟩
  | .between operand lower upper, valid => by
      simp only [filter, andThen_ok_iff] at valid
      obtain ⟨-, checked, -, checkedLower, -, checkedUpper⟩ := valid
      simp only [Filter.inquiries, allPass_append, allPass_cons]
      exact ⟨⟨checked, expression_covers depth operand checked⟩,
        ⟨checkedLower, expression_covers depth lower checkedLower⟩,
        checkedUpper, expression_covers depth upper checkedUpper⟩
  | .isIn left right, valid | .isNotIn left right, valid => by
      simp only [filter, andThen_ok_iff] at valid
      obtain ⟨-, checkedLeft, -, checkedRight⟩ := valid
      simp only [Filter.inquiries, allPass_append, allPass_cons]
      exact ⟨⟨checkedLeft, expression_covers depth left checkedLeft⟩,
        checkedRight, expression_covers depth right checkedRight⟩
  | .stringMatch left value mode ignoreCase, valid => by
      simp only [filter, andThen_ok_iff] at valid
      obtain ⟨-, checked, -⟩ := valid
      simp only [Filter.inquiries, allPass_cons]
      exact ⟨checked, expression_covers depth left checked⟩
  | .and conditions, valid | .or conditions, valid => by
      simp only [Filter.inquiries]
      exact filters_covers depth conditions valid
  | .not condition, valid => by
      simp only [Filter.inquiries, allPass_cons]
      exact ⟨valid, filter_covers depth condition valid⟩
  | .hasRows query, valid | .hasNoRows query, valid => by
      simp only [Filter.inquiries, allPass_cons]
      exact ⟨valid, subQuery_covers depth query valid⟩

theorem filters_covers (depth : Nat) :
    (conditions : List Filter) → filters conditions = .ok () →
      AllPass (Filter.eachInquiries depth conditions)
  | [], _ => by simp only [Filter.eachInquiries, allPass_nil]
  | first :: rest, valid => by
      simp only [filters, andThen_ok_iff] at valid
      simp only [Filter.eachInquiries, allPass_append, allPass_cons]
      exact ⟨⟨valid.1, filter_covers depth first valid.1⟩, filters_covers depth rest valid.2⟩

theorem target_covers (depth : Nat) :
    (found : Target) → target found = .ok () → AllPass (found.inquiries depth)
  | .mk name entity given joined, valid => by
      simp only [target, andThen_ok_iff] at valid
      simp only [Target.inquiries]
      exact joins_covers depth joined valid.2

theorem joins_covers (depth : Nat) :
    (joined : List Join) → joins joined = .ok () → AllPass (Join.eachInquiries depth joined)
  | [], _ => by simp only [Join.eachInquiries, allPass_nil]
  | first :: rest, valid => by
      simp only [joins, andThen_ok_iff] at valid
      simp only [Join.eachInquiries, allPass_append]
      exact ⟨join_covers depth first valid.1, joins_covers depth rest valid.2⟩

theorem join_covers (depth : Nat) :
    (found : Join) → join found = .ok () → AllPass (found.inquiries depth)
  | .mk joinType joined none, valid => by
      simp only [join, andThen_ok_iff] at valid
      simp only [Join.inquiries, Filter.inquiriesIfAny, List.nil_append]
      exact target_covers depth joined valid.1
  | .mk joinType joined (some condition), valid => by
      simp only [join, andThen_ok_iff] at valid
      simp only [Join.inquiries, Filter.inquiriesIfAny, allPass_append, allPass_cons]
      exact ⟨⟨valid.2, filter_covers depth condition valid.2⟩,
        target_covers depth joined valid.1⟩

theorem sortKeys_covers (depth : Nat) :
    (keys : List SortKey) → sortKeys keys = .ok () →
      AllPass (SortKey.eachInquiries depth keys)
  | [], _ => by simp only [SortKey.eachInquiries, allPass_nil]
  | .mk key direction :: rest, valid => by
      simp only [sortKeys, sortKey, andThen_ok_iff] at valid
      obtain ⟨⟨-, checked⟩, others⟩ := valid
      simp only [SortKey.eachInquiries, SortKey.inquiries, allPass_append, allPass_cons]
      exact ⟨⟨checked, expression_covers depth key checked⟩, sortKeys_covers depth rest others⟩

theorem aggregation_covers (depth : Nat) :
    (grouping : Aggregation) → aggregation grouping = .ok () →
      AllPass (grouping.inquiries depth)
  | .mk keys none, valid => by
      simp only [aggregation, andThen_ok_iff] at valid
      simp only [Aggregation.inquiries, Filter.inquiriesIfAny, List.append_nil]
      exact groupKeys_covers depth keys valid.2.1
  | .mk keys (some having), valid => by
      simp only [aggregation, andThen_ok_iff] at valid
      obtain ⟨-, checkedKeys, checked⟩ := valid
      simp only [Aggregation.inquiries, Filter.inquiriesIfAny, allPass_append, allPass_cons]
      exact ⟨groupKeys_covers depth keys checkedKeys, checked, filter_covers depth having checked⟩

theorem groupKeys_covers (depth : Nat) :
    (keys : List Expression) → groupKeys keys = .ok () →
      AllPass (Expression.eachInquiries depth keys)
  | [], _ => by simp only [Expression.eachInquiries, allPass_nil]
  | key :: rest, valid => by
      simp only [groupKeys, andThen_ok_iff] at valid
      obtain ⟨-, checked, others⟩ := valid
      simp only [Expression.eachInquiries, allPass_append, allPass_cons]
      exact ⟨⟨checked, expression_covers depth key checked⟩, groupKeys_covers depth rest others⟩

theorem projection_covers (depth : Nat) :
    (selected : Projection) → projection selected = .ok () →
      AllPass (selected.inquiries depth)
  | .path found, valid => by
      simp only [Projection.inquiries, allPass_cons]
      exact ⟨valid, allPass_nil⟩
  | .function call, valid => by
      simp only [Projection.inquiries, allPass_cons]
      exact ⟨valid, function_covers depth call valid⟩
  | .properties items, valid => by
      simp only [projection, andThen_ok_iff] at valid
      simp only [Projection.inquiries]
      exact projectionItems_covers depth [] items valid.2
  | .constant _, _ | .target _, _ | .selectAll, _ | .countAll, _ => by
      simp only [Projection.inquiries, allPass_nil]

theorem projectionItems_covers (depth : Nat) (earlier : List String) :
    (items : List NamedProperty) → projectionItems earlier items = .ok () →
      AllPass (NamedProperty.eachInquiries depth items)
  | [], _ => by simp only [NamedProperty.eachInquiries, allPass_nil]
  | .mk name item :: rest, valid => by
      simp only [projectionItems, andThen_ok_iff] at valid
      obtain ⟨-, -, -, checked, others⟩ := valid
      simp only [NamedProperty.eachInquiries, NamedProperty.inquiries, allPass_append,
        allPass_cons]
      exact ⟨⟨checked, expression_covers depth item checked⟩,
        projectionItems_covers depth (name :: earlier) rest others⟩

theorem subQuery_covers (depth : Nat) :
    (query : SubQuery) → subQuery query = .ok () → AllPass (query.inquiries depth)
  | .mk queried none selected correlations, valid => by
      simp only [subQuery, andThen_ok_iff] at valid
      obtain ⟨checkedTarget, -, -, checkedSelected⟩ := valid
      simp only [SubQuery.inquiries, Filter.inquiriesIfAny, allPass_append, allPass_cons]
      exact ⟨⟨checkedTarget, target_covers (depth + 1) queried checkedTarget⟩, allPass_nil,
        checkedSelected, projection_covers (depth + 1) selected checkedSelected⟩
  | .mk queried (some condition) selected correlations, valid => by
      simp only [subQuery, andThen_ok_iff] at valid
      obtain ⟨checkedTarget, checked, -, checkedSelected⟩ := valid
      simp only [SubQuery.inquiries, Filter.inquiriesIfAny, allPass_append, allPass_cons]
      exact ⟨⟨checkedTarget, target_covers (depth + 1) queried checkedTarget⟩,
        ⟨checked, filter_covers (depth + 1) condition checked⟩,
        checkedSelected, projection_covers (depth + 1) selected checkedSelected⟩

end

/-- The check of a condition that may be missing covers the inquiries about it. -/
theorem clause_covers {condition : Option Filter} (depth : Nat)
    (valid : Operation.validateClause filter condition = .ok ()) :
    AllPass (Filter.inquiriesIfAny depth condition) := by
  cases condition with
  | none => simp only [Filter.inquiriesIfAny, allPass_nil]
  | some condition =>
      simp only [Filter.inquiriesIfAny, allPass_cons]
      exact ⟨valid, filter_covers depth condition valid⟩

end Validation

namespace Operation

open Inquiry

/-- The check of assignments covers the inquiries about their paths and values. -/
theorem validateValues_covers
    {values : List (Path × Expression)}
    (valid : validateValues values = .ok ()) :
    AllPass (values.flatMap assignmentInquiries) := by
  induction values with
  | nil => exact allPass_nil
  | cons assignment rest inductionHypothesis =>
      obtain ⟨path, value⟩ := assignment
      simp only [validateValues, Validation.andThen_ok_iff] at valid
      obtain ⟨checkedPath, -, checked, others⟩ := valid
      simp only [List.flatMap_cons, assignmentInquiries, Inquiry.into, allPass_append,
        allPass_cons]
      exact ⟨⟨checkedPath, checked, Validation.expression_covers 0 value checked⟩,
        inductionHypothesis others⟩

/-- The check of an operation covers every inquiry that its composition can lead to. -/
theorem validate_covers {operation : Operation} (valid : operation.validate = .ok ()) :
    AllPass operation.inquiries := by
  simp only [validate, Validation.andThen_ok_iff] at valid
  obtain ⟨target, filter, aggregation, sort, projection, -, values⟩ := valid
  have conditions := Validation.clause_covers 0 filter
  unfold inquiries
  split
  · simp only [Inquiry.into, allPass_append, allPass_cons]
    refine ⟨⟨target, ?_⟩, conditions, ?_, ?_, ?_⟩
    · exact Validation.expression_covers 0 (.target operation.target) target
    · cases grouped : operation.aggregation with
      | none => exact allPass_nil
      | some grouping =>
          rw [grouped] at aggregation
          exact allPass_cons.mpr
            ⟨aggregation, Validation.expression_covers 0 (.aggregation grouping) aggregation⟩
    · cases sorted : operation.sort with
      | none => exact allPass_nil
      | some keys =>
          rw [sorted] at sort
          exact allPass_cons.mpr ⟨sort, Validation.expression_covers 0 (.sort keys) sort⟩
    · have selected :
          Validation.projection (operation.projection.getD Projection.entity) = .ok () := by
        cases projected : operation.projection with
        | none => rfl
        | some selected =>
            rw [projected] at projection
            exact projection
      exact ⟨selected, Validation.expression_covers 0 (.projection _) selected⟩
  all_goals first
    | exact allPass_append.mpr ⟨validateValues_covers values, conditions⟩
    | exact allPass_nil

end Operation
end ObjectQuery
