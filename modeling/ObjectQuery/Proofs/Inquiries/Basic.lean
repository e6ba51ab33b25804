import ObjectQuery.Operation.Basic

/-!
# What the resolvers are asked about

An inquiry is a node about which the registry asks its resolvers, with the number of sub-queries
around the node. Resolving a node leads to further inquiries about its parts, in all the places
where a part is resolved: operands, arguments, conditions, keys, selected properties, and the
clauses of a sub-query, which stand one level deeper.

What is never resolved leads to no inquiry: the pattern of a string match, which must be a
constant, the clauses that the kind of an operation does not write, and a projected constant.
-/

namespace ObjectQuery

/-- A node about which the resolvers are asked. -/
structure Inquiry where
  /-- The number of sub-queries around the node. -/
  depth : Nat
  node : Expression

mutual

/-- The inquiries about the parts of a node that stands at a depth. -/
def Expression.inquiries (depth : Nat) : Expression → List Inquiry
  | .path _ | .constant _ | .custom _ => []
  | .function call => FunctionCall.inquiries depth call
  | .subQuery query => SubQuery.inquiries depth query
  | .filter condition => Filter.inquiries depth condition
  | .sort keys => SortKey.eachInquiries depth keys
  | .aggregation grouping => Aggregation.inquiries depth grouping
  | .projection selected => Projection.inquiries depth selected
  | .target target => Target.inquiries depth target

/-- The inquiries about some nodes and their parts. -/
def Expression.eachInquiries (depth : Nat) : List Expression → List Inquiry
  | [] => []
  | first :: rest =>
      (⟨depth, first⟩ :: Expression.inquiries depth first) ++ Expression.eachInquiries depth rest

/-- The inquiries about the arguments of a call. -/
def FunctionCall.inquiries (depth : Nat) : FunctionCall → List Inquiry
  | .mk _ arguments _ => Expression.eachInquiries depth arguments

/-- The inquiries about the operands and conditions of a condition. -/
def Filter.inquiries (depth : Nat) : Filter → List Inquiry
  | .isNull operand | .isNotNull operand =>
      ⟨depth, operand⟩ :: Expression.inquiries depth operand
  | .compare left _ right | .isIn left right | .isNotIn left right =>
      (⟨depth, left⟩ :: Expression.inquiries depth left) ++
        (⟨depth, right⟩ :: Expression.inquiries depth right)
  | .between operand lower upper =>
      (⟨depth, operand⟩ :: Expression.inquiries depth operand) ++
        ((⟨depth, lower⟩ :: Expression.inquiries depth lower) ++
          (⟨depth, upper⟩ :: Expression.inquiries depth upper))
  | .stringMatch left _ _ _ => ⟨depth, left⟩ :: Expression.inquiries depth left
  | .and conditions | .or conditions => Filter.eachInquiries depth conditions
  | .not condition => ⟨depth, .filter condition⟩ :: Filter.inquiries depth condition
  | .hasRows query | .hasNoRows query =>
      ⟨depth, .subQuery query⟩ :: SubQuery.inquiries depth query

/-- The inquiries about some conditions and their parts. -/
def Filter.eachInquiries (depth : Nat) : List Filter → List Inquiry
  | [] => []
  | first :: rest =>
      (⟨depth, .filter first⟩ :: Filter.inquiries depth first) ++ Filter.eachInquiries depth rest

/-- The inquiries about a condition that may be missing. -/
def Filter.inquiriesIfAny (depth : Nat) : Option Filter → List Inquiry
  | none => []
  | some condition => ⟨depth, .filter condition⟩ :: Filter.inquiries depth condition

/-- The inquiries about the joins of a target. -/
def Target.inquiries (depth : Nat) : Target → List Inquiry
  | .mk _ _ _ joins => Join.eachInquiries depth joins

/-- The inquiries about some joins. -/
def Join.eachInquiries (depth : Nat) : List Join → List Inquiry
  | [] => []
  | first :: rest => Join.inquiries depth first ++ Join.eachInquiries depth rest

/-- The inquiries about the condition of a join and the joins within it. -/
def Join.inquiries (depth : Nat) : Join → List Inquiry
  | .mk _ target condition =>
      Filter.inquiriesIfAny depth condition ++ Target.inquiries depth target

/-- The inquiries about some sort keys. -/
def SortKey.eachInquiries (depth : Nat) : List SortKey → List Inquiry
  | [] => []
  | first :: rest => SortKey.inquiries depth first ++ SortKey.eachInquiries depth rest

/-- The inquiries about a sort key. -/
def SortKey.inquiries (depth : Nat) : SortKey → List Inquiry
  | .mk key _ => ⟨depth, key⟩ :: Expression.inquiries depth key

/-- The inquiries about the keys of a grouping and the condition on its groups. -/
def Aggregation.inquiries (depth : Nat) : Aggregation → List Inquiry
  | .mk keys having =>
      Expression.eachInquiries depth keys ++ Filter.inquiriesIfAny depth having

/-- The inquiries about what a projection selects. -/
def Projection.inquiries (depth : Nat) : Projection → List Inquiry
  | .path found => [⟨depth, .path found⟩]
  | .function call => ⟨depth, .function call⟩ :: FunctionCall.inquiries depth call
  | .properties items => NamedProperty.eachInquiries depth items
  | .constant _ | .target _ | .selectAll | .countAll => []

/-- The inquiries about some projected properties. -/
def NamedProperty.eachInquiries (depth : Nat) : List NamedProperty → List Inquiry
  | [] => []
  | first :: rest => NamedProperty.inquiries depth first ++ NamedProperty.eachInquiries depth rest

/-- The inquiries about a projected property. -/
def NamedProperty.inquiries (depth : Nat) : NamedProperty → List Inquiry
  | .mk _ item => ⟨depth, item⟩ :: Expression.inquiries depth item

/-- The inquiries about the clauses of a sub-query, which has its level for itself. -/
def SubQuery.inquiries (depth : Nat) : SubQuery → List Inquiry
  | .mk queried condition selected _ =>
      (⟨depth + 1, .target queried⟩ :: Target.inquiries (depth + 1) queried) ++
        (Filter.inquiriesIfAny (depth + 1) condition ++
          (⟨depth + 1, .projection selected⟩ :: Projection.inquiries (depth + 1) selected))

end

/-- The inquiries about a node and its parts. -/
def Inquiry.into (depth : Nat) (node : Expression) : List Inquiry :=
  ⟨depth, node⟩ :: node.inquiries depth

namespace Operation

/-- The inquiries about an assignment. -/
def assignmentInquiries (assignment : Path × Expression) : List Inquiry :=
  ⟨0, .path assignment.1⟩ :: Inquiry.into 0 assignment.2

/-- The inquiries about the clauses of an operation that its kind resolves. -/
def inquiries (operation : Operation) : List Inquiry :=
  match operation.kind with
  | .select =>
      Inquiry.into 0 (.target operation.target) ++
        (Filter.inquiriesIfAny 0 operation.filter ++
          (operation.aggregation.elim [] (fun grouping => Inquiry.into 0 (.aggregation grouping)) ++
            (operation.sort.elim [] (fun keys => Inquiry.into 0 (.sort keys)) ++
              Inquiry.into 0 (.projection (operation.projection.getD Projection.entity)))))
  | .update | .delete =>
      operation.values.flatMap assignmentInquiries ++ Filter.inquiriesIfAny 0 operation.filter
  | .insert => []

/-- A bulk write asks about its assignments, and then about its condition. -/
theorem inquiries_of_bulk {operation : Operation}
    (bulk : operation.kind = .update ∨ operation.kind = .delete) :
    operation.inquiries =
      operation.values.flatMap assignmentInquiries ++ Filter.inquiriesIfAny 0 operation.filter := by
  rcases bulk with kind | kind <;> rw [inquiries, kind]

/--
The largest number of sub-queries that are nested inside each other in the clauses that are
resolved. Every sub-query has a target, which is asked about inside it.
-/
def nesting (operation : Operation) : Nat :=
  (operation.inquiries.map Inquiry.depth).foldr max 0

/-- The nesting stays within a limit if no node is asked about that lies deeper. -/
theorem nesting_le_iff {operation : Operation} {limit : Nat} :
    operation.nesting ≤ limit ↔ ∀ inquiry ∈ operation.inquiries, inquiry.depth ≤ limit := by
  unfold nesting
  induction operation.inquiries with
  | nil => simp
  | cons first rest inductionHypothesis =>
      rw [List.map_cons, List.foldr_cons, Nat.max_le, List.forall_mem_cons, inductionHypothesis]

end Operation
end ObjectQuery
