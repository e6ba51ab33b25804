import ObjectQuery.Proofs.Sketch.Nodes

/-!
# Only sources declare targets

Of a valid node only the source of a select declares targets in the scope in hand: operands
are values, and a sub-query has a scope of its own. So whatever is resolved after the source
of a select finds the targets of this source and no more.
-/

namespace ObjectQuery

namespace Sketch

/-- The targets that a sketch declares in the scope in hand, in order. -/
def declared : Sketch → List Target
  | .filling _ | .mention _ | .nested _ => []
  | .declaration target => [target]
  | .append first second => first.declared ++ second.declared
  | .expecting _ inner => inner.declared
  | .call _ _ argument => argument.declared
  | .select _ source clauses selected =>
      source.declared ++ (clauses.declared ++ selected.declared)

/-- In every select of the sketch only the source declares targets. -/
def Sourced : Sketch → Prop
  | .filling _ | .mention _ | .declaration _ => True
  | .append first second => first.Sourced ∧ second.Sourced
  | .expecting _ inner => inner.Sourced
  | .call _ _ argument => argument.Sourced
  | .select _ source clauses selected =>
      source.Sourced ∧ (clauses.Sourced ∧ clauses.declared = []) ∧
        selected.Sourced ∧ selected.declared = []
  | .nested query => query.Sourced

/-- The sketch is sourced and declares nothing in the scope in hand. -/
def Settled (sketch : Sketch) : Prop :=
  sketch.Sourced ∧ sketch.declared = []

namespace Settled

variable {sketch first second : Sketch} {sketches : List Sketch}

theorem filling (given : Filling) : (Sketch.filling given).Settled :=
  ⟨trivial, rfl⟩

theorem words (text : String) : (Sketch.words text).Settled :=
  ⟨trivial, rfl⟩

theorem mention (found : Mention) : (Sketch.mention found).Settled :=
  ⟨trivial, rfl⟩

theorem append (firsts : first.Settled) (seconds : second.Settled) :
    (first.append second).Settled :=
  ⟨⟨firsts.1, seconds.1⟩, by rw [declared, firsts.2, seconds.2, List.append_nil]⟩

theorem expecting (inners : sketch.Settled) (valueType : ValueType) :
    (Sketch.expecting valueType sketch).Settled :=
  inners

theorem call (arguments : sketch.Settled) (kind : FunctionKind) (distinct : Bool) :
    (Sketch.call kind distinct sketch).Settled :=
  arguments

theorem between (inners : sketch.Settled) (opening closing : String) :
    (Sketch.between opening sketch closing).Settled :=
  (words opening).append (inners.append (words closing))

theorem enclosing (inners : sketch.Settled) (operand : Expression) :
    (Sketch.enclosing operand sketch).Settled := by
  cases operand with
  | subQuery query => exact inners.between "(" ")"
  | _ => exact inners

theorem named (inners : sketch.Settled) (name : Option String) : (sketch.named name).Settled := by
  cases name with
  | none => exact inners
  | some name => exact inners.append (words _)

theorem subject (inners : sketch.Settled) (ignoreCase : Bool) :
    (Sketch.subject ignoreCase sketch).Settled := by
  cases ignoreCase with
  | true => exact inners.call .lower false
  | false => exact inners

theorem separated (each : ∀ sketch ∈ sketches, sketch.Settled) (separator : String) :
    (Sketch.separated separator sketches).Settled := by
  induction sketches with
  | nil => exact words ""
  | cons first rest inductionHypothesis =>
      obtain ⟨firsts, rests⟩ := List.forall_mem_cons.mp each
      cases rest with
      | nil => exact firsts
      | cons second rest => exact firsts.append ((words separator).append (inductionHypothesis rests))

theorem junction (each : ∀ sketch ∈ sketches, sketch.Settled) (word : String) :
    (Sketch.junction word sketches).Settled :=
  separated (List.forall_mem_map.mpr fun sketch member => (each sketch member).between "(" ")") _

theorem calling
    (each : ∀ sketch ∈ sketches, sketch.Settled)
    (kind : FunctionKind)
    (distinct : Bool) :
    (Sketch.calling kind distinct sketches).Settled := by
  cases sketches with
  | nil => exact filling _
  | cons first rest => exact (each first List.mem_cons_self).call kind distinct

end Settled
end Sketch

/-! ## Valid nodes -/

namespace Validation

theorem isOperand_of_role
    {role : String}
    {operand : Expression}
    (valid : operandRole role operand = .ok ()) :
    operand.isOperand = true := by
  simp only [operandRole, andThen_ok_iff, require_ok_iff] at valid
  exact valid.1

theorem isOperand_of_member
    {operand : Expression}
    (valid : memberRole operand = .ok ()) :
    operand.isOperand = true := by
  unfold memberRole at valid
  split at valid
  · rfl
  · rfl
  · rfl
  · rfl
  · exact isOperand_of_role valid

theorem isOperand_of_key
    {expression verb : String}
    {key : Expression}
    (valid : keyRole expression verb key = .ok ()) :
    key.isOperand = true := by
  simp only [keyRole, require_ok_iff, Bool.and_eq_true] at valid
  exact valid.1

end Validation

open Sketch (Settled)

mutual

theorem Expression.sketch_settled :
    (node : Expression) → node.isOperand = true → Validation.expression node = .ok () →
      node.sketch.Settled
  | .path found, _, _ => by
      rw [Expression.sketch]
      exact .mention _
  | .constant value, _, _ => by
      rw [Expression.sketch]
      exact .filling _
  | .function call, _, valid => by
      simp only [Validation.expression] at valid
      rw [Expression.sketch]
      exact FunctionCall.sketch_settled call valid
  | .subQuery query, _, valid => by
      simp only [Validation.expression] at valid
      rw [Expression.sketch]
      exact SubQuery.sketch_settled query valid
  | .custom _, _, _ => by
      rw [Expression.sketch]
      exact .words ""
  | .filter _, operand, _ | .sort _, operand, _ | .aggregation _, operand, _
  | .projection _, operand, _ | .target _, operand, _ => by simp [Expression.isOperand] at operand

theorem FunctionCall.sketch_settled :
    (call : FunctionCall) → Validation.function call = .ok () → call.sketch.Settled
  | .mk kind arguments distinct, valid => by
      simp only [Validation.function, Validation.andThen_ok_iff] at valid
      rw [FunctionCall.sketch]
      exact .calling (Expression.sketches_settled kind arguments valid.2.2) kind distinct

theorem Expression.sketches_settled (kind : FunctionKind) :
    (arguments : List Expression) → Validation.functionArguments kind arguments = .ok () →
      ∀ sketch ∈ Expression.sketches arguments, sketch.Settled
  | [], _ => by simp [Expression.sketches]
  | argument :: rest, valid => by
      simp only [Validation.functionArguments, Validation.andThen_ok_iff,
        Validation.require_ok_iff] at valid
      rw [Expression.sketches, List.forall_mem_cons]
      exact ⟨Expression.sketch_settled argument valid.1 valid.2.1,
        Expression.sketches_settled kind rest valid.2.2⟩

theorem Filter.sketch_settled :
    (condition : Filter) → Validation.filter condition = .ok () → condition.sketch.Settled
  | .isNull operand, valid | .isNotNull operand, valid => by
      simp only [Validation.filter, Validation.andThen_ok_iff, Validation.require_ok_iff] at valid
      rw [Filter.sketch]
      exact ((Expression.sketch_settled operand valid.1 valid.2).enclosing operand).append (.words _)
  | .compare left operator right, valid => by
      simp only [Validation.filter, Validation.andThen_ok_iff] at valid
      obtain ⟨roleLeft, validLeft, roleRight, validRight, -⟩ := valid
      have lefts := Expression.sketch_settled left (Validation.isOperand_of_role roleLeft) validLeft
      have rights :=
        Expression.sketch_settled right (Validation.isOperand_of_role roleRight) validRight
      rw [Filter.sketch]
      exact (lefts.enclosing left).append
        ((Settled.words _).append ((rights.expecting _).enclosing right))
  | .between operand lower upper, valid => by
      simp only [Validation.filter, Validation.andThen_ok_iff] at valid
      obtain ⟨role, validOperand, roleLower, validLower, roleUpper, validUpper⟩ := valid
      have operands := Expression.sketch_settled operand (Validation.isOperand_of_role role)
        validOperand
      have lowers := Expression.sketch_settled lower (Validation.isOperand_of_role roleLower)
        validLower
      have uppers := Expression.sketch_settled upper (Validation.isOperand_of_role roleUpper)
        validUpper
      rw [Filter.sketch]
      exact (operands.enclosing operand).append ((Settled.words _).append
        (((lowers.expecting _).enclosing lower).append
          ((Settled.words _).append ((uppers.expecting _).enclosing upper))))
  | .isIn left right, valid | .isNotIn left right, valid => by
      simp only [Validation.filter, Validation.andThen_ok_iff] at valid
      obtain ⟨roleLeft, validLeft, roleRight, validRight⟩ := valid
      have lefts := Expression.sketch_settled left (Validation.isOperand_of_role roleLeft) validLeft
      have rights :=
        Expression.sketch_settled right (Validation.isOperand_of_member roleRight) validRight
      rw [Filter.sketch]
      exact (lefts.enclosing left).append ((rights.expecting _).between _ _)
  | .stringMatch left value mode ignoreCase, valid => by
      simp only [Validation.filter, Validation.andThen_ok_iff] at valid
      have lefts :=
        Expression.sketch_settled left (Validation.isOperand_of_role valid.1) valid.2.1
      rw [Filter.sketch]
      exact ((lefts.enclosing left).subject ignoreCase).append
        ((Settled.words _).append (.filling _))
  | .and conditions, valid | .or conditions, valid => by
      simp only [Validation.filter] at valid
      rw [Filter.sketch]
      exact .junction (Filter.sketches_settled conditions valid) _
  | .not condition, valid => by
      simp only [Validation.filter] at valid
      rw [Filter.sketch]
      exact (Filter.sketch_settled condition valid).between _ _
  | .hasRows query, valid | .hasNoRows query, valid => by
      simp only [Validation.filter] at valid
      rw [Filter.sketch]
      exact (SubQuery.sketch_settled query valid).between _ _

theorem Filter.sketches_settled :
    (conditions : List Filter) → Validation.filters conditions = .ok () →
      ∀ sketch ∈ Filter.sketches conditions, sketch.Settled
  | [], _ => by simp [Filter.sketches]
  | condition :: rest, valid => by
      simp only [Validation.filters, Validation.andThen_ok_iff] at valid
      rw [Filter.sketches, List.forall_mem_cons]
      exact ⟨Filter.sketch_settled condition valid.1, Filter.sketches_settled rest valid.2⟩

theorem Target.sketch_sourced :
    (target : Target) → Validation.target target = .ok () → target.sketch.Sourced
  | .mk name entity aliasName joined, valid => by
      rw [Target.sketch]
      exact ⟨trivial, Join.sketches_sourced joined (Validation.of_target valid).2⟩

theorem Join.sketches_sourced :
    (joined : List Join) → Validation.joins joined = .ok () → (Join.sketches joined).Sourced
  | [], _ => by
      rw [Join.sketches]
      trivial
  | first :: rest, valid => by
      obtain ⟨validFirst, validRest⟩ := Validation.of_joins valid
      rw [Join.sketches]
      exact ⟨Join.sketch_sourced first validFirst, Join.sketches_sourced rest validRest⟩

theorem Join.sketch_sourced :
    (join : Join) → Validation.join join = .ok () → join.sketch.Sourced
  | .mk joinType (.mk name entity aliasName joined) none, valid => by
      have validJoins := (Validation.of_target (Validation.target_of_join valid)).2
      rw [Join.sketch, Target.joinSketch, Filter.sketchAfter]
      exact ⟨trivial, trivial, trivial, Join.sketches_sourced joined validJoins⟩
  | .mk joinType (.mk name entity aliasName joined) (some condition), valid => by
      have validJoins := (Validation.of_target (Validation.target_of_join valid)).2
      simp only [Validation.join, Validation.andThen_ok_iff] at valid
      have conditions := Filter.sketch_settled condition valid.2
      rw [Join.sketch, Target.joinSketch, Filter.sketchAfter]
      exact ⟨trivial, trivial, ⟨trivial, conditions.1⟩, Join.sketches_sourced joined validJoins⟩

theorem SortKey.sketches_settled :
    (keys : List SortKey) → Validation.sortKeys keys = .ok () →
      ∀ sketch ∈ SortKey.sketches keys, sketch.Settled
  | [], _ => by simp [SortKey.sketches]
  | .mk key direction :: rest, valid => by
      simp only [Validation.sortKeys, Validation.sortKey, Validation.andThen_ok_iff] at valid
      obtain ⟨⟨role, validKey⟩, validRest⟩ := valid
      have keys := Expression.sketch_settled key (Validation.isOperand_of_key role) validKey
      rw [SortKey.sketches, List.forall_mem_cons, SortKey.sketch]
      exact ⟨keys.append (.words _), SortKey.sketches_settled rest validRest⟩

theorem Expression.keySketches_settled :
    (keys : List Expression) → Validation.groupKeys keys = .ok () →
      ∀ sketch ∈ Expression.sketches keys, sketch.Settled
  | [], _ => by simp [Expression.sketches]
  | key :: rest, valid => by
      simp only [Validation.groupKeys, Validation.andThen_ok_iff] at valid
      obtain ⟨role, validKey, validRest⟩ := valid
      rw [Expression.sketches, List.forall_mem_cons]
      exact ⟨Expression.sketch_settled key (Validation.isOperand_of_key role) validKey,
        Expression.keySketches_settled rest validRest⟩

theorem Aggregation.sketch_settled :
    (grouping : Aggregation) → Validation.aggregation grouping = .ok () → grouping.sketch.Settled
  | .mk keys none, valid => by
      simp only [Validation.aggregation, Validation.andThen_ok_iff] at valid
      have each := Expression.keySketches_settled keys valid.2.1
      rw [Aggregation.sketch, Filter.sketchAfter]
      exact ((Settled.words _).append (.separated each _)).append (.words _)
  | .mk keys (some condition), valid => by
      simp only [Validation.aggregation, Validation.andThen_ok_iff] at valid
      have each := Expression.keySketches_settled keys valid.2.1
      have conditions := Filter.sketch_settled condition valid.2.2
      rw [Aggregation.sketch, Filter.sketchAfter]
      exact ((Settled.words _).append (.separated each _)).append ((Settled.words _).append conditions)

theorem Projection.sketch_settled :
    (selected : Projection) → Validation.projection selected = .ok () → selected.sketch.Settled
  | .path found, _ => by
      rw [Projection.sketch]
      exact (Settled.mention _).named _
  | .function call, valid => by
      simp only [Validation.projection] at valid
      rw [Projection.sketch]
      exact FunctionCall.sketch_settled call valid
  | .constant value, _ => by
      rw [Projection.sketch]
      exact .filling _
  | .target name, _ => by
      rw [Projection.sketch]
      exact .mention _
  | .properties items, valid => by
      simp only [Validation.projection, Validation.andThen_ok_iff] at valid
      rw [Projection.sketch]
      exact .separated (NamedProperty.sketches_settled [] items valid.2) _
  | .selectAll, _ => by
      rw [Projection.sketch]
      exact .mention _
  | .countAll, _ => by
      rw [Projection.sketch]
      exact (Settled.mention _).call _ _

theorem NamedProperty.sketches_settled (earlier : List String) :
    (items : List NamedProperty) → Validation.projectionItems earlier items = .ok () →
      ∀ sketch ∈ NamedProperty.sketches items, sketch.Settled
  | [], _ => by simp [NamedProperty.sketches]
  | .mk name item :: rest, valid => by
      simp only [Validation.projectionItems, Validation.andThen_ok_iff,
        Validation.require_ok_iff] at valid
      obtain ⟨-, -, operand, validItem, validRest⟩ := valid
      rw [NamedProperty.sketches, List.forall_mem_cons, NamedProperty.sketch]
      exact ⟨(Expression.sketch_settled item operand validItem).named _,
        NamedProperty.sketches_settled (name :: earlier) rest validRest⟩

theorem SubQuery.sketch_settled :
    (query : SubQuery) → Validation.subQuery query = .ok () → query.sketch.Settled
  | .mk queried none selected correlations, valid => by
      simp only [Validation.subQuery, Validation.andThen_ok_iff] at valid
      obtain ⟨validTarget, -, -, validSelected⟩ := valid
      have selects := Projection.sketch_settled selected validSelected
      rw [SubQuery.sketch, Filter.sketchAfter]
      exact ⟨⟨Target.sketch_sourced queried validTarget, Settled.words _, selects⟩, rfl⟩
  | .mk queried (some condition) selected correlations, valid => by
      simp only [Validation.subQuery, Validation.andThen_ok_iff] at valid
      obtain ⟨validTarget, validCondition, -, validSelected⟩ := valid
      have selects := Projection.sketch_settled selected validSelected
      have conditions := Filter.sketch_settled condition validCondition
      rw [SubQuery.sketch, Filter.sketchAfter]
      exact ⟨⟨Target.sketch_sourced queried validTarget, (Settled.words _).append conditions,
        selects⟩, rfl⟩

end

/-! ## Valid operations -/

/-- A clause that may be missing is settled behind its words. -/
theorem Filter.sketchAfter_settled
    {found : Option Filter}
    (valid : Operation.validateClause Validation.filter found = .ok ())
    (opening : String) :
    (Filter.sketchAfter opening found).Settled := by
  cases found with
  | none => exact .words ""
  | some condition => exact (Settled.words opening).append (condition.sketch_settled valid)

/-- In the statement of a valid select only sources declare targets. -/
theorem Operation.sketch_sourced
    {operation : Operation}
    (isSelect : operation.kind = .select)
    (valid : operation.validate = .ok ()) :
    operation.sketch.Sourced := by
  simp only [Operation.validate, Validation.andThen_ok_iff] at valid
  obtain ⟨validTarget, validFilter, validGrouping, validOrdering, validSelected, -⟩ := valid
  have groupings : (operation.aggregation.elim (Sketch.words "") fun grouping =>
      (Sketch.words " ").append grouping.sketch).Settled := by
    cases given : operation.aggregation with
    | none => exact .words ""
    | some grouping =>
        rw [given] at validGrouping
        exact (Settled.words _).append (grouping.sketch_settled validGrouping)
  have orderings : (operation.sort.elim (Sketch.words "") fun keys =>
      (Sketch.words " ").append (Expression.sort keys).sketch).Settled := by
    cases given : operation.sort with
    | none => exact .words ""
    | some keys =>
        rw [given] at validOrdering
        simp only [Operation.validateClause, Validation.expression,
          Validation.andThen_ok_iff] at validOrdering
        rw [Option.elim_some, Expression.sketch]
        exact (Settled.words _).append
          ((Settled.words _).append (.separated (SortKey.sketches_settled keys validOrdering.2) _))
  have selects : (operation.projection.getD Projection.entity).sketch.Settled := by
    cases given : operation.projection with
    | none => exact Projection.sketch_settled Projection.entity rfl
    | some selected =>
        rw [given] at validSelected
        exact selected.sketch_settled validSelected
  simp only [Operation.sketch, isSelect]
  exact ⟨operation.target.sketch_sourced validTarget,
    (Filter.sketchAfter_settled validFilter _).append (groupings.append orderings), selects⟩

end ObjectQuery
