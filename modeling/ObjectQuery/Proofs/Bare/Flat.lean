import ObjectQuery.Proofs.Inquiries.Basic
import ObjectQuery.Proofs.Sketch.Sources

/-!
# Flat nodes

Values and conditions are flat if they are made of properties, constants and calls, without
sub-queries. Where no part of a valid condition is asked about at a deeper level, the condition
is flat. A flat node speaks of targets only by their properties, and declares none.
-/

namespace ObjectQuery

mutual

/-- Whether a value is made of properties, constants and calls of them. -/
def Expression.isFlat : Expression → Bool
  | .path _ | .constant _ | .custom _ => true
  | .function call => FunctionCall.isFlat call
  | .subQuery _ | .filter _ | .sort _ | .aggregation _ | .projection _ | .target _ => false

/-- Whether some values are flat. -/
def Expression.areFlat : List Expression → Bool
  | [] => true
  | first :: rest => Expression.isFlat first && Expression.areFlat rest

/-- Whether the arguments of a call are flat. -/
def FunctionCall.isFlat : FunctionCall → Bool
  | .mk _ arguments _ => Expression.areFlat arguments

/-- Whether a condition compares flat values, without sub-queries. -/
def Filter.isFlat : Filter → Bool
  | .isNull operand | .isNotNull operand => Expression.isFlat operand
  | .compare left _ right | .isIn left right | .isNotIn left right =>
      Expression.isFlat left && Expression.isFlat right
  | .between operand lower upper =>
      Expression.isFlat operand && (Expression.isFlat lower && Expression.isFlat upper)
  | .stringMatch left _ _ _ => Expression.isFlat left
  | .and conditions | .or conditions => Filter.areFlat conditions
  | .not condition => Filter.isFlat condition
  | .hasRows _ | .hasNoRows _ => false

/-- Whether some conditions are flat. -/
def Filter.areFlat : List Filter → Bool
  | [] => true
  | first :: rest => Filter.isFlat first && Filter.areFlat rest

end

/-! ## Nodes without deeper inquiries -/

/-- All inquiries are made at one depth. -/
def Inquiry.AllAt (depth : Nat) (inquiries : List Inquiry) : Prop :=
  ∀ inquiry ∈ inquiries, inquiry.depth = depth

namespace Inquiry

variable {depth : Nat}

@[simp]
theorem allAt_cons {node : Expression} {level : Nat} {rest : List Inquiry} :
    AllAt depth (⟨level, node⟩ :: rest) ↔ level = depth ∧ AllAt depth rest :=
  List.forall_mem_cons

@[simp]
theorem allAt_append {first second : List Inquiry} :
    AllAt depth (first ++ second) ↔ AllAt depth first ∧ AllAt depth second :=
  List.forall_mem_append

/-- The target of a sub-query is asked about at a deeper level. -/
theorem not_allAt_subQuery (query : SubQuery) : ¬ AllAt depth (query.inquiries depth) := by
  obtain ⟨queried, condition, selected, correlations⟩ := query
  intro level
  simp only [SubQuery.inquiries, allAt_append, allAt_cons] at level
  omega

end Inquiry

open Inquiry Validation

variable {depth : Nat}

mutual

/-- A valid operand without deeper inquiries is flat. -/
theorem Expression.isFlat_of_allAt :
    (node : Expression) → node.isOperand = true → Validation.expression node = .ok () →
      AllAt depth (node.inquiries depth) → node.isFlat = true
  | .path _, _, _, _ | .constant _, _, _, _ | .custom _, _, _, _ => by
      simp only [Expression.isFlat]
  | .function call, _, valid, level => by
      simp only [Validation.expression] at valid
      simp only [Expression.inquiries] at level
      simp only [Expression.isFlat]
      exact FunctionCall.isFlat_of_allAt call valid level
  | .subQuery query, _, _, level => by
      simp only [Expression.inquiries] at level
      exact absurd level (not_allAt_subQuery query)
  | .filter _, operand, _, _ | .sort _, operand, _, _ | .aggregation _, operand, _, _
  | .projection _, operand, _, _ | .target _, operand, _, _ => by
      simp [Expression.isOperand] at operand

theorem FunctionCall.isFlat_of_allAt :
    (call : FunctionCall) → Validation.function call = .ok () →
      AllAt depth (call.inquiries depth) → call.isFlat = true
  | .mk kind arguments distinct, valid, level => by
      simp only [Validation.function, andThen_ok_iff] at valid
      simp only [FunctionCall.inquiries] at level
      simp only [FunctionCall.isFlat]
      exact Expression.areFlat_of_allAt kind arguments valid.2.2 level

theorem Expression.areFlat_of_allAt (kind : FunctionKind) :
    (arguments : List Expression) → Validation.functionArguments kind arguments = .ok () →
      AllAt depth (Expression.eachInquiries depth arguments) →
        Expression.areFlat arguments = true
  | [], _, _ => by simp only [Expression.areFlat]
  | argument :: rest, valid, level => by
      simp only [Validation.functionArguments, andThen_ok_iff, require_ok_iff] at valid
      simp only [Expression.eachInquiries, allAt_append, allAt_cons] at level
      simp only [Expression.areFlat, Bool.and_eq_true]
      exact ⟨Expression.isFlat_of_allAt argument valid.1 valid.2.1 level.1.2,
        Expression.areFlat_of_allAt kind rest valid.2.2 level.2⟩

theorem Filter.isFlat_of_allAt :
    (condition : Filter) → Validation.filter condition = .ok () →
      AllAt depth (condition.inquiries depth) → condition.isFlat = true
  | .isNull operand, valid, level | .isNotNull operand, valid, level => by
      simp only [Validation.filter, andThen_ok_iff, require_ok_iff] at valid
      simp only [Filter.inquiries, allAt_cons] at level
      simp only [Filter.isFlat]
      exact Expression.isFlat_of_allAt operand valid.1 valid.2 level.2
  | .compare left _ right, valid, level => by
      simp only [Validation.filter, andThen_ok_iff] at valid
      obtain ⟨roleLeft, validLeft, roleRight, validRight, -⟩ := valid
      simp only [Filter.inquiries, allAt_append, allAt_cons] at level
      simp only [Filter.isFlat, Bool.and_eq_true]
      exact ⟨Expression.isFlat_of_allAt left (isOperand_of_role roleLeft) validLeft level.1.2,
        Expression.isFlat_of_allAt right (isOperand_of_role roleRight) validRight level.2.2⟩
  | .between operand lower upper, valid, level => by
      simp only [Validation.filter, andThen_ok_iff] at valid
      obtain ⟨role, validOperand, roleLower, validLower, roleUpper, validUpper⟩ := valid
      simp only [Filter.inquiries, allAt_append, allAt_cons] at level
      obtain ⟨⟨-, levelOperand⟩, ⟨-, levelLower⟩, -, levelUpper⟩ := level
      simp only [Filter.isFlat, Bool.and_eq_true]
      exact ⟨Expression.isFlat_of_allAt operand (isOperand_of_role role) validOperand levelOperand,
        Expression.isFlat_of_allAt lower (isOperand_of_role roleLower) validLower levelLower,
        Expression.isFlat_of_allAt upper (isOperand_of_role roleUpper) validUpper levelUpper⟩
  | .isIn left right, valid, level | .isNotIn left right, valid, level => by
      simp only [Validation.filter, andThen_ok_iff] at valid
      obtain ⟨roleLeft, validLeft, roleRight, validRight⟩ := valid
      simp only [Filter.inquiries, allAt_append, allAt_cons] at level
      simp only [Filter.isFlat, Bool.and_eq_true]
      exact ⟨Expression.isFlat_of_allAt left (isOperand_of_role roleLeft) validLeft level.1.2,
        Expression.isFlat_of_allAt right (isOperand_of_member roleRight) validRight level.2.2⟩
  | .stringMatch left _ _ _, valid, level => by
      simp only [Validation.filter, andThen_ok_iff] at valid
      simp only [Filter.inquiries, allAt_cons] at level
      simp only [Filter.isFlat]
      exact Expression.isFlat_of_allAt left (isOperand_of_role valid.1) valid.2.1 level.2
  | .and conditions, valid, level | .or conditions, valid, level => by
      simp only [Validation.filter] at valid
      simp only [Filter.inquiries] at level
      simp only [Filter.isFlat]
      exact Filter.areFlat_of_allAt conditions valid level
  | .not condition, valid, level => by
      simp only [Validation.filter] at valid
      simp only [Filter.inquiries, allAt_cons] at level
      simp only [Filter.isFlat]
      exact Filter.isFlat_of_allAt condition valid level.2
  | .hasRows query, _, level | .hasNoRows query, _, level => by
      simp only [Filter.inquiries, allAt_cons] at level
      exact absurd level.2 (not_allAt_subQuery query)

theorem Filter.areFlat_of_allAt :
    (conditions : List Filter) → Validation.filters conditions = .ok () →
      AllAt depth (Filter.eachInquiries depth conditions) → Filter.areFlat conditions = true
  | [], _, _ => by simp only [Filter.areFlat]
  | first :: rest, valid, level => by
      simp only [Validation.filters, andThen_ok_iff] at valid
      simp only [Filter.eachInquiries, allAt_append, allAt_cons] at level
      simp only [Filter.areFlat, Bool.and_eq_true]
      exact ⟨Filter.isFlat_of_allAt first valid.1 level.1.2,
        Filter.areFlat_of_allAt rest valid.2 level.2⟩

end

/-- The assigned values and the condition of a write are flat. -/
structure Operation.IsFlat (operation : Operation) : Prop where
  values : ∀ assignment ∈ operation.values, assignment.2.isFlat = true
  filter : ∀ condition ∈ operation.filter, condition.isFlat = true

theorem Operation.areFlat_of_allAt
    {values : List (Path × Expression)}
    (valid : validateValues values = .ok ())
    (level : AllAt 0 (values.flatMap assignmentInquiries)) :
    ∀ assignment ∈ values, assignment.2.isFlat = true := by
  induction values with
  | nil => exact List.forall_mem_nil _
  | cons assignment rest inductionHypothesis =>
      simp only [validateValues, andThen_ok_iff, require_ok_iff] at valid
      obtain ⟨-, operand, validValue, others⟩ := valid
      simp only [List.flatMap_cons, assignmentInquiries, Inquiry.into, allAt_append,
        allAt_cons] at level
      obtain ⟨⟨-, -, levelValue⟩, levelOthers⟩ := level
      exact List.forall_mem_cons.mpr
        ⟨Expression.isFlat_of_allAt assignment.2 operand validValue levelValue,
          inductionHypothesis others levelOthers⟩

/-- A valid update or delete that resolves no sub-query is flat. -/
theorem Operation.isFlat_of_nesting
    {operation : Operation}
    (bulk : operation.kind = .update ∨ operation.kind = .delete)
    (valid : operation.validate = .ok ())
    (unnested : operation.nesting = 0) :
    operation.IsFlat := by
  have level : AllAt 0 operation.inquiries := fun inquiry member =>
    Nat.le_zero.mp (nesting_le_iff.mp (Nat.le_of_eq unnested) inquiry member)
  rw [inquiries_of_bulk bulk, allAt_append] at level
  simp only [validate, andThen_ok_iff] at valid
  obtain ⟨-, validFilter, -, -, -, -, validValues⟩ := valid
  refine ⟨areFlat_of_allAt validValues level.1, fun condition filtered => ?_⟩
  rw [Option.mem_def.mp filtered, validateClause] at validFilter
  rw [Option.mem_def.mp filtered, Filter.inquiriesIfAny, allAt_cons] at level
  exact Filter.isFlat_of_allAt condition validFilter level.2.2

/-! ## Sketches of flat nodes -/

namespace Sketch

/-- A sketch that speaks of targets only by their properties, and declares none. -/
inductive Flat : Sketch → Prop
  | filling (given : Filling) : Flat (.filling given)
  | property (found : Path) : Flat (.mention (.property found))
  | append {first second : Sketch} (firsts : Flat first) (seconds : Flat second) :
      Flat (first.append second)
  | expecting {inner : Sketch} (inners : Flat inner) (valueType : ValueType) :
      Flat (.expecting valueType inner)
  | call {argument : Sketch} (arguments : Flat argument) (kind : FunctionKind) (distinct : Bool) :
      Flat (.call kind distinct argument)

namespace Flat

variable {sketch : Sketch} {sketches : List Sketch}

theorem words (text : String) : (Sketch.words text).Flat :=
  .filling _

theorem between (inners : sketch.Flat) (opening closing : String) :
    (Sketch.between opening sketch closing).Flat :=
  (words opening).append (inners.append (words closing))

theorem subject (inners : sketch.Flat) (ignoreCase : Bool) :
    (Sketch.subject ignoreCase sketch).Flat := by
  cases ignoreCase with
  | true => exact inners.call .lower false
  | false => exact inners

theorem separated (each : ∀ sketch ∈ sketches, sketch.Flat) (separator : String) :
    (Sketch.separated separator sketches).Flat := by
  induction sketches with
  | nil => exact words ""
  | cons first rest inductionHypothesis =>
      obtain ⟨firsts, rests⟩ := List.forall_mem_cons.mp each
      cases rest with
      | nil => exact firsts
      | cons second rest =>
          exact firsts.append ((words separator).append (inductionHypothesis rests))

theorem junction (each : ∀ sketch ∈ sketches, sketch.Flat) (word : String) :
    (Sketch.junction word sketches).Flat :=
  separated (List.forall_mem_map.mpr fun sketch member => (each sketch member).between "(" ")") _

theorem calling (each : ∀ sketch ∈ sketches, sketch.Flat) (kind : FunctionKind) (distinct : Bool) :
    (Sketch.calling kind distinct sketches).Flat := by
  cases sketches with
  | nil => exact filling _
  | cons first rest => exact (each first List.mem_cons_self).call kind distinct

end Flat
end Sketch

open Sketch (Flat)

/-- A flat operand is never put between parentheses. -/
theorem Sketch.enclosing_of_isFlat {operand : Expression} (flat : operand.isFlat = true)
    (inner : Sketch) :
    Sketch.enclosing operand inner = inner := by
  cases operand with
  | subQuery query => simp [Expression.isFlat] at flat
  | _ => rfl

mutual

theorem Expression.sketch_flat :
    (node : Expression) → node.isFlat = true → node.sketch.Flat
  | .path found, _ => by
      rw [Expression.sketch]
      exact .property found
  | .constant value, _ => by
      rw [Expression.sketch]
      exact .filling _
  | .custom _, _ => by
      rw [Expression.sketch]
      exact .words ""
  | .function call, flat => by
      simp only [Expression.isFlat] at flat
      rw [Expression.sketch]
      exact FunctionCall.sketch_flat call flat
  | .subQuery _, flat | .filter _, flat | .sort _, flat | .aggregation _, flat
  | .projection _, flat | .target _, flat => by simp [Expression.isFlat] at flat

theorem FunctionCall.sketch_flat :
    (call : FunctionCall) → call.isFlat = true → call.sketch.Flat
  | .mk kind arguments distinct, flat => by
      simp only [FunctionCall.isFlat] at flat
      rw [FunctionCall.sketch]
      exact .calling (Expression.sketches_flat arguments flat) kind distinct

theorem Expression.sketches_flat :
    (arguments : List Expression) → Expression.areFlat arguments = true →
      ∀ sketch ∈ Expression.sketches arguments, sketch.Flat
  | [], _ => by simp [Expression.sketches]
  | first :: rest, flat => by
      simp only [Expression.areFlat, Bool.and_eq_true] at flat
      rw [Expression.sketches, List.forall_mem_cons]
      exact ⟨Expression.sketch_flat first flat.1, Expression.sketches_flat rest flat.2⟩

theorem Filter.sketch_flat :
    (condition : Filter) → condition.isFlat = true → condition.sketch.Flat
  | .isNull operand, flat | .isNotNull operand, flat => by
      simp only [Filter.isFlat] at flat
      rw [Filter.sketch, Sketch.enclosing_of_isFlat flat]
      exact (Expression.sketch_flat operand flat).append (.words _)
  | .compare left _ right, flat => by
      simp only [Filter.isFlat, Bool.and_eq_true] at flat
      rw [Filter.sketch, Sketch.enclosing_of_isFlat flat.1, Sketch.enclosing_of_isFlat flat.2]
      exact (Expression.sketch_flat left flat.1).append ((Flat.words _).append
        ((Expression.sketch_flat right flat.2).expecting _))
  | .between operand lower upper, flat => by
      simp only [Filter.isFlat, Bool.and_eq_true] at flat
      obtain ⟨flatOperand, flatLower, flatUpper⟩ := flat
      rw [Filter.sketch, Sketch.enclosing_of_isFlat flatOperand,
        Sketch.enclosing_of_isFlat flatLower, Sketch.enclosing_of_isFlat flatUpper]
      exact (Expression.sketch_flat operand flatOperand).append ((Flat.words _).append
        (((Expression.sketch_flat lower flatLower).expecting _).append ((Flat.words _).append
          ((Expression.sketch_flat upper flatUpper).expecting _))))
  | .isIn left right, flat | .isNotIn left right, flat => by
      simp only [Filter.isFlat, Bool.and_eq_true] at flat
      rw [Filter.sketch, Sketch.enclosing_of_isFlat flat.1]
      exact (Expression.sketch_flat left flat.1).append
        (((Expression.sketch_flat right flat.2).expecting _).between _ _)
  | .stringMatch left _ _ ignoreCase, flat => by
      simp only [Filter.isFlat] at flat
      rw [Filter.sketch, Sketch.enclosing_of_isFlat flat]
      exact ((Expression.sketch_flat left flat).subject ignoreCase).append
        ((Flat.words _).append (.filling _))
  | .and conditions, flat | .or conditions, flat => by
      simp only [Filter.isFlat] at flat
      rw [Filter.sketch]
      exact .junction (Filter.sketches_flat conditions flat) _
  | .not condition, flat => by
      simp only [Filter.isFlat] at flat
      rw [Filter.sketch]
      exact (Filter.sketch_flat condition flat).between _ _
  | .hasRows _, flat | .hasNoRows _, flat => by simp [Filter.isFlat] at flat

theorem Filter.sketches_flat :
    (conditions : List Filter) → Filter.areFlat conditions = true →
      ∀ sketch ∈ Filter.sketches conditions, sketch.Flat
  | [], _ => by simp [Filter.sketches]
  | first :: rest, flat => by
      simp only [Filter.areFlat, Bool.and_eq_true] at flat
      rw [Filter.sketches, List.forall_mem_cons]
      exact ⟨Filter.sketch_flat first flat.1, Filter.sketches_flat rest flat.2⟩

end

theorem Filter.sketchAfter_flat
    {found : Option Filter}
    (flat : ∀ condition ∈ found, condition.isFlat = true)
    (opening : String) :
    (Filter.sketchAfter opening found).Flat := by
  cases found with
  | none =>
      rw [Filter.sketchAfter]
      exact .words ""
  | some condition =>
      rw [Filter.sketchAfter]
      exact (Flat.words opening).append (Filter.sketch_flat condition (flat condition rfl))

theorem Expression.assignedSketch_flat {value : Expression} (flat : value.isFlat = true) :
    value.assignedSketch.Flat := by
  unfold Expression.assignedSketch
  split
  · exact .filling _
  · exact Expression.sketch_flat value flat

namespace Operation

theorem assignmentSketch_flat {assignment : Path × Expression}
    (flat : assignment.2.isFlat = true) :
    (assignmentSketch assignment).Flat :=
  (Flat.property assignment.1).append
    ((Flat.words "=").append ((Expression.assignedSketch_flat flat).expecting _))

/-- A flat write is its target, declared behind some words, and a flat rest. -/
theorem exists_sketch_flat
    {operation : Operation}
    (bulk : operation.kind = .update ∨ operation.kind = .delete)
    (flat : operation.IsFlat) :
    ∃ opening rest,
      operation.sketch =
          (Sketch.words opening).append ((Sketch.declaration operation.target).append rest) ∧
        rest.Flat := by
  have condition := Filter.sketchAfter_flat flat.filter " WHERE "
  rcases bulk with isUpdate | isDelete
  · have assignments : (Sketch.separated ", " (operation.values.map assignmentSketch)).Flat :=
      .separated (List.forall_mem_map.mpr fun assignment member =>
        assignmentSketch_flat (flat.values assignment member)) _
    rw [sketch, isUpdate]
    exact ⟨_, _, rfl, (Flat.words " SET ").append (assignments.append condition)⟩
  · rw [sketch, isDelete]
    exact ⟨_, _, rfl, condition⟩

end Operation
end ObjectQuery
