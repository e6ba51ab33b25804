import ObjectQuery.Proofs.Parameters.BuiltIn
import ObjectQuery.Proofs.Signs.Steps
import ObjectQuery.Proofs.Sketch.Sources

/-!
# Signs of nodes

The signs that a node writes right in front of names, as long as it binds nothing: the last
character of an operator whose right operand is a path or a call, the minus of a negative number,
and the brace of a date or a time that is projected. The mutual induction over nodes finds that
the sketch of a node is signed by these.
-/

namespace ObjectQuery

open Text
open Sketch (Signed SignedEach Begins Detached)

/-! ## The signs of a node -/

/-- Whether what is written for an operand begins with a name. -/
def Expression.begins : Expression → Bool
  | .path _ | .function _ | .subQuery _ | .constant .null => true
  | _ => false

/-- Whether it does where sub-queries stand in parentheses. -/
def Expression.beginsEnclosed : Expression → Bool
  | .subQuery _ => false
  | operand => operand.begins

mutual

/-- The signs that a node writes in front of names. -/
def Expression.signs : Expression → List Sign
  | .path _ | .constant _ | .custom _ => []
  | .function call => FunctionCall.signs call
  | .subQuery query => SubQuery.signs query
  | .filter condition => Filter.signs condition
  | .sort keys => SortKey.allSigns keys
  | .aggregation grouping => Aggregation.signs grouping
  | .projection selected => Projection.signs selected
  | .target found => Target.signs found

/-- The signs that some nodes write in front of names. -/
def Expression.allSigns : List Expression → List Sign
  | [] => []
  | first :: rest => Expression.signs first ++ Expression.allSigns rest

/-- The signs that the arguments of a call write in front of names. -/
def FunctionCall.signs : FunctionCall → List Sign
  | .mk _ arguments _ => Expression.allSigns arguments

/-- The signs that a condition writes in front of names. -/
def Filter.signs : Filter → List Sign
  | .isNull operand | .isNotNull operand => Expression.signs operand
  | .compare left operator right =>
      Expression.signs left ++
        (operator.sign.inFront right.beginsEnclosed ++ Expression.signs right)
  | .between operand lower upper =>
      Expression.signs operand ++ (Expression.signs lower ++ Expression.signs upper)
  | .isIn left right | .isNotIn left right => Expression.signs left ++ Expression.signs right
  | .stringMatch left _ _ _ => Expression.signs left
  | .and conditions | .or conditions => Filter.allSigns conditions
  | .not condition => Filter.signs condition
  | .hasRows query | .hasNoRows query => SubQuery.signs query

/-- The signs that some conditions write in front of names. -/
def Filter.allSigns : List Filter → List Sign
  | [] => []
  | first :: rest => Filter.signs first ++ Filter.allSigns rest

/-- The signs of a condition that may be missing. -/
def Filter.signsIfAny : Option Filter → List Sign
  | none => []
  | some condition => Filter.signs condition

/-- The signs that the conditions of a target's joins write in front of names. -/
def Target.signs : Target → List Sign
  | .mk _ _ _ joined => Join.allSigns joined

/-- The signs that some joins write in front of names. -/
def Join.allSigns : List Join → List Sign
  | [] => []
  | first :: rest => Join.signs first ++ Join.allSigns rest

/-- The signs that a join's condition and the joins within it write in front of names. -/
def Join.signs : Join → List Sign
  | .mk _ joined condition => Filter.signsIfAny condition ++ Target.signs joined

/-- The signs that some sort keys write in front of names. -/
def SortKey.allSigns : List SortKey → List Sign
  | [] => []
  | first :: rest => SortKey.signs first ++ SortKey.allSigns rest

/-- The signs that a sort key writes in front of names. -/
def SortKey.signs : SortKey → List Sign
  | .mk key _ => Expression.signs key

/-- The signs that a grouping writes in front of names. -/
def Aggregation.signs : Aggregation → List Sign
  | .mk keys having => Expression.allSigns keys ++ Filter.signsIfAny having

/-- The signs that a select list writes in front of names. -/
def Projection.signs : Projection → List Sign
  | .function call => FunctionCall.signs call
  | .constant value => value.literalSigns
  | .properties items => NamedProperty.allSigns items
  | .path _ | .target _ | .selectAll | .countAll => []

/-- The signs that some projected properties write in front of names. -/
def NamedProperty.allSigns : List NamedProperty → List Sign
  | [] => []
  | first :: rest => NamedProperty.signs first ++ NamedProperty.allSigns rest

/-- The signs that a projected property writes in front of names. -/
def NamedProperty.signs : NamedProperty → List Sign
  | .mk _ item => Expression.signs item

/-- The signs that a sub-query writes in front of names, the select list first. -/
def SubQuery.signs : SubQuery → List Sign
  | .mk queried condition selected _ =>
      Projection.signs selected ++ (Target.signs queried ++ Filter.signsIfAny condition)

end

/-! ## Parts of valid nodes -/

namespace Validation

/-- The condition of a join is checked as a clause that may be missing. -/
theorem condition_of_join
    {joinType : JoinType}
    {joined : Target}
    {condition : Option Filter}
    (valid : join (.mk joinType joined condition) = .ok ()) :
    Operation.validateClause filter condition = .ok () := by
  cases condition with
  | none => rfl
  | some condition => exact ((andThen_ok_iff _ _).mp (by simpa only [join] using valid)).2

theorem of_aggregation
    {keys : List Expression}
    {having : Option Filter}
    (valid : aggregation (.mk keys having) = .ok ()) :
    groupKeys keys = .ok () ∧ Operation.validateClause filter having = .ok () := by
  cases having with
  | none =>
      simp only [aggregation, andThen_ok_iff] at valid
      exact ⟨valid.2.1, rfl⟩
  | some condition =>
      simp only [aggregation, andThen_ok_iff] at valid
      exact valid.2

theorem of_subQuery
    {queried : Target}
    {condition : Option Filter}
    {selected : Projection}
    {correlations : List String}
    (valid : subQuery (.mk queried condition selected correlations) = .ok ()) :
    target queried = .ok () ∧ Operation.validateClause filter condition = .ok () ∧
      projection selected = .ok () := by
  cases condition with
  | none =>
      simp only [subQuery, andThen_ok_iff] at valid
      exact ⟨valid.1, rfl, valid.2.2.2⟩
  | some condition =>
      simp only [subQuery, andThen_ok_iff] at valid
      exact ⟨valid.1, valid.2.1, valid.2.2.2⟩

theorem isIdentifier_of_path
    {found : Path}
    (valid : projection (.path found) = .ok ()) :
    ∀ aliasName ∈ found.aliasName, isIdentifier aliasName = true := by
  obtain ⟨name, valueType, parent, target, given⟩ := found
  rintro aliasName ⟨⟩
  unfold projection path at valid
  simp only [andThen_ok_iff] at valid
  simpa [Validation.aliasName] using valid.2.2.2.1

end Validation

/-! ## What begins with a name -/

variable {settings : Settings}

theorem Expression.length_sketches_of_function
    {kind : FunctionKind}
    {arguments : List Expression}
    {distinct : Bool}
    (valid : Validation.function (.mk kind arguments distinct) = .ok ()) :
    (Expression.sketches arguments).length = kind.arity :=
  (Expression.length_sketches arguments).trans (Validation.length_of_function valid)

/-- An operand that binds nothing begins with a name as it says. -/
theorem Expression.sketch_begins
    (accepted : settings.dialect.IsAccepted)
    {node : Expression}
    (operand : node.isOperand = true)
    (named : NodeCheck.wellNamed.expression node)
    (valid : Validation.expression node = .ok ())
    (unbound : node.slots = 0) :
    node.sketch.Begins settings node.begins := by
  cases node with
  | path found =>
      simp only [NodeCheck.expression] at named
      rw [Expression.sketch]
      exact .property named
  | constant value =>
      simp only [Expression.slots] at unbound
      rw [Expression.sketch]
      refine .filling fun {before after text} written => ?_
      obtain ⟨-, ⟨rfl, rfl⟩ | ⟨rfl, rfl⟩⟩ := Sketch.constant_of_written unbound written
      · decide
      · decide
  | function call =>
      obtain ⟨kind, arguments, distinct⟩ := call
      simp only [Validation.expression] at valid
      rw [Expression.sketch, FunctionCall.sketch]
      exact .calling accepted (Expression.length_sketches_of_function valid) distinct
  | subQuery query =>
      obtain ⟨queried, condition, selected, correlations⟩ := query
      rw [Expression.sketch, SubQuery.sketch]
      exact .nested_select _ _ _ _
  | custom node =>
      rw [Expression.sketch]
      exact .words_empty
  | _ => simp [Expression.isOperand] at operand

/-- Behind an operator a sub-query begins with a parenthesis. -/
theorem Expression.enclosing_begins
    (accepted : settings.dialect.IsAccepted)
    {node : Expression}
    (operand : node.isOperand = true)
    (named : NodeCheck.wellNamed.expression node)
    (valid : Validation.expression node = .ok ())
    (unbound : node.slots = 0)
    (valueType : ValueType) :
    (Sketch.enclosing node (.expecting valueType node.sketch)).Begins settings
      node.beginsEnclosed := by
  have starts := (node.sketch_begins accepted operand named valid unbound).expecting valueType
  cases node with
  | subQuery query => exact .between _ _
  | _ => exact starts

/-! ## What stands behind a node -/

theorem Filter.sketchAfter_detached
    {opening : String}
    (apart : Apart opening)
    (visible : opening ≠ "")
    (condition : Option Filter) :
    (Filter.sketchAfter opening condition).Detached settings := by
  cases condition with
  | none => exact .words (by decide)
  | some condition =>
      rw [Filter.sketchAfter]
      exact .after_words apart visible _

theorem Join.sketches_detached (joined : List Join) :
    (Join.sketches joined).Detached settings := by
  induction joined with
  | nil =>
      rw [Join.sketches]
      exact .words (by decide)
  | cons first rest inductionHypothesis =>
      obtain ⟨joinType, target, condition⟩ := first
      have keyword : Apart (" " ++ joinType.keyword ++ " ") ∧
          " " ++ joinType.keyword ++ " " ≠ "" := by
        cases joinType <;> decide
      rw [Join.sketches, Join.sketch]
      exact .append (.after_words keyword.1 keyword.2 _) inductionHypothesis

/-! ## Nodes -/

open NodeCheck (wellNamed)

mutual

/-- The sketch of a node that binds nothing is signed as the node says. -/
theorem Expression.sketch_signed (accepted : settings.dialect.IsAccepted) :
    (node : Expression) → wellNamed.expression node → Validation.expression node = .ok () →
      node.slots = 0 → node.sketch.Signed settings node.signs
  | .path found, named, _, _ => by
      simp only [NodeCheck.expression] at named
      rw [Expression.sketch, Expression.signs]
      refine .mention accepted ?_
      rintro path ⟨⟩
      exact named
  | .constant value, _, _, unbound => by
      simp only [Expression.slots] at unbound
      rw [Expression.sketch, Expression.signs]
      exact .constant accepted unbound
  | .function call, named, valid, unbound => by
      simp only [NodeCheck.expression] at named
      simp only [Validation.expression] at valid
      simp only [Expression.slots] at unbound
      rw [Expression.sketch, Expression.signs]
      exact FunctionCall.sketch_signed accepted call named valid unbound
  | .subQuery query, named, valid, unbound => by
      simp only [NodeCheck.expression] at named
      simp only [Validation.expression] at valid
      simp only [Expression.slots] at unbound
      rw [Expression.sketch, Expression.signs]
      exact SubQuery.sketch_signed accepted query named valid unbound
  | .filter condition, named, valid, unbound => by
      simp only [NodeCheck.expression] at named
      simp only [Validation.expression] at valid
      simp only [Expression.slots] at unbound
      rw [Expression.sketch, Expression.signs]
      exact Filter.sketch_signed accepted condition named valid unbound
  | .sort keys, named, valid, unbound => by
      simp only [NodeCheck.expression] at named
      simp only [Validation.expression, Validation.andThen_ok_iff] at valid
      simp only [Expression.slots] at unbound
      rw [Expression.sketch, Expression.signs]
      exact ((SortKey.sketches_signed accepted keys named valid.2 unbound).separated accepted
        (by decide) (by decide) (by decide)).after_words accepted (by decide)
  | .aggregation grouping, named, valid, unbound => by
      simp only [NodeCheck.expression] at named
      simp only [Validation.expression] at valid
      simp only [Expression.slots] at unbound
      rw [Expression.sketch, Expression.signs]
      exact Aggregation.sketch_signed accepted grouping named valid unbound
  | .projection selected, named, valid, unbound => by
      simp only [NodeCheck.expression] at named
      simp only [Validation.expression] at valid
      simp only [Expression.slots] at unbound
      rw [Expression.sketch, Expression.signs]
      exact Projection.sketch_signed accepted selected named valid unbound
  | .target found, named, valid, unbound => by
      simp only [NodeCheck.expression] at named
      simp only [Validation.expression] at valid
      simp only [Expression.slots] at unbound
      rw [Expression.sketch, Expression.signs]
      exact Target.sketch_signed accepted found named valid unbound
  | .custom node, _, _, _ => by
      rw [Expression.sketch, Expression.signs]
      exact .words accepted (by decide)

theorem FunctionCall.sketch_signed (accepted : settings.dialect.IsAccepted) :
    (call : FunctionCall) → wellNamed.function call → Validation.function call = .ok () →
      call.slots = 0 → call.sketch.Signed settings call.signs
  | .mk kind arguments distinct, named, valid, unbound => by
      have arity := Expression.length_sketches_of_function valid
      simp only [NodeCheck.function] at named
      simp only [Validation.function, Validation.andThen_ok_iff] at valid
      simp only [FunctionCall.slots] at unbound
      rw [FunctionCall.sketch, FunctionCall.signs]
      exact (Expression.arguments_signed accepted kind arguments named valid.2.2 unbound).calling
        accepted arity distinct

theorem Expression.arguments_signed
    (accepted : settings.dialect.IsAccepted)
    (kind : FunctionKind) :
    (arguments : List Expression) → wellNamed.expressions arguments →
      Validation.functionArguments kind arguments = .ok () →
      Expression.totalSlots arguments = 0 →
      SignedEach settings (Expression.sketches arguments) (Expression.allSigns arguments)
  | [], _, _, _ => by
      rw [Expression.sketches, Expression.allSigns]
      exact .nil
  | argument :: rest, named, valid, unbound => by
      simp only [NodeCheck.expressions] at named
      simp only [Validation.functionArguments, Validation.andThen_ok_iff] at valid
      simp only [Expression.totalSlots, Nat.add_eq_zero_iff] at unbound
      rw [Expression.sketches, Expression.allSigns]
      exact .cons (Expression.sketch_signed accepted argument named.1 valid.2.1 unbound.1)
        (Expression.arguments_signed accepted kind rest named.2 valid.2.2 unbound.2)

theorem Filter.sketch_signed (accepted : settings.dialect.IsAccepted) :
    (condition : Filter) → wellNamed.filter condition → Validation.filter condition = .ok () →
      condition.slots = 0 → condition.sketch.Signed settings condition.signs
  | .isNull operand, named, valid, unbound | .isNotNull operand, named, valid, unbound => by
      simp only [NodeCheck.filter] at named
      simp only [Validation.filter, Validation.andThen_ok_iff] at valid
      simp only [Filter.slots] at unbound
      rw [Filter.sketch, Filter.signs]
      exact ((Expression.sketch_signed accepted operand named valid.2 unbound).enclosing accepted
        operand).before_words accepted (by decide) (by decide)
  | .compare left operator right, named, valid, unbound => by
      simp only [NodeCheck.filter] at named
      simp only [Validation.filter, Validation.andThen_ok_iff] at valid
      obtain ⟨-, validLeft, roleRight, validRight, -⟩ := valid
      simp only [Filter.slots, Nat.add_eq_zero_iff] at unbound
      have lefts := Expression.sketch_signed accepted left named.1 validLeft unbound.1
      have rights := Expression.sketch_signed accepted right named.2 validRight unbound.2
      rw [Filter.sketch, Filter.signs]
      exact (lefts.enclosing accepted left).compared operator
        (Expression.enclosing_begins accepted (Validation.isOperand_of_role roleRight) named.2
          validRight unbound.2 _)
        ((rights.expecting _).enclosing accepted right)
  | .between operand lower upper, named, valid, unbound => by
      simp only [NodeCheck.filter] at named
      simp only [Validation.filter, Validation.andThen_ok_iff] at valid
      obtain ⟨-, validOperand, -, validLower, -, validUpper⟩ := valid
      simp only [Filter.slots, Nat.add_eq_zero_iff] at unbound
      have operands := Expression.sketch_signed accepted operand named.1 validOperand unbound.1.1
      have lowers := Expression.sketch_signed accepted lower named.2.1 validLower unbound.1.2
      have uppers := Expression.sketch_signed accepted upper named.2.2 validUpper unbound.2
      rw [Filter.sketch, Filter.signs]
      exact (operands.enclosing accepted operand).joined accepted (by decide) (by decide)
        (by decide) (((lowers.expecting _).enclosing accepted lower).joined accepted (by decide)
          (by decide) (by decide) ((uppers.expecting _).enclosing accepted upper))
  | .isIn left right, named, valid, unbound | .isNotIn left right, named, valid, unbound => by
      simp only [NodeCheck.filter] at named
      simp only [Validation.filter, Validation.andThen_ok_iff] at valid
      obtain ⟨-, validLeft, -, validRight⟩ := valid
      simp only [Filter.slots, Nat.add_eq_zero_iff] at unbound
      have lefts := Expression.sketch_signed accepted left named.1 validLeft unbound.1
      have rights := Expression.sketch_signed accepted right named.2 validRight unbound.2
      rw [Filter.sketch, Filter.signs]
      exact (lefts.enclosing accepted left).append
        ((rights.expecting _).between accepted (by decide))
        (.after_words (by decide) (by decide) _)
  | .stringMatch left value mode ignoreCase, _, _, unbound => by
      simp [Filter.slots] at unbound
  | .and conditions, named, valid, unbound | .or conditions, named, valid, unbound => by
      simp only [NodeCheck.filter] at named
      simp only [Validation.filter] at valid
      simp only [Filter.slots] at unbound
      rw [Filter.sketch, Filter.signs]
      exact ((Filter.sketches_signed accepted conditions named valid unbound).parenthesized
        accepted).separated accepted (by decide) (by decide) (by decide)
  | .not condition, named, valid, unbound => by
      simp only [NodeCheck.filter] at named
      simp only [Validation.filter] at valid
      simp only [Filter.slots] at unbound
      rw [Filter.sketch, Filter.signs]
      exact (Filter.sketch_signed accepted condition named valid unbound).between accepted
        (by decide)
  | .hasRows query, named, valid, unbound | .hasNoRows query, named, valid, unbound => by
      simp only [NodeCheck.filter] at named
      simp only [Validation.filter] at valid
      simp only [Filter.slots] at unbound
      rw [Filter.sketch, Filter.signs]
      exact (SubQuery.sketch_signed accepted query named valid unbound).between accepted
        (by decide)

theorem Filter.sketches_signed (accepted : settings.dialect.IsAccepted) :
    (conditions : List Filter) → wellNamed.filters conditions →
      Validation.filters conditions = .ok () → Filter.totalSlots conditions = 0 →
      SignedEach settings (Filter.sketches conditions) (Filter.allSigns conditions)
  | [], _, _, _ => by
      rw [Filter.sketches, Filter.allSigns]
      exact .nil
  | condition :: rest, named, valid, unbound => by
      simp only [NodeCheck.filters] at named
      simp only [Validation.filters, Validation.andThen_ok_iff] at valid
      simp only [Filter.totalSlots, Nat.add_eq_zero_iff] at unbound
      rw [Filter.sketches, Filter.allSigns]
      exact .cons (Filter.sketch_signed accepted condition named.1 valid.1 unbound.1)
        (Filter.sketches_signed accepted rest named.2 valid.2 unbound.2)

/-- A condition that may be missing, behind its words. -/
theorem Filter.sketchAfter_signed
    (accepted : settings.dialect.IsAccepted)
    (opening : String)
    (neutral : opening.toList.all isNeutral = true) :
    (found : Option Filter) → wellNamed.filterIfAny found →
      Operation.validateClause Validation.filter found = .ok () → Filter.slotsIfAny found = 0 →
      (Filter.sketchAfter opening found).Signed settings (Filter.signsIfAny found)
  | none, _, _, _ => by
      rw [Filter.sketchAfter, Filter.signsIfAny]
      exact .words accepted (by decide)
  | some condition, named, valid, unbound => by
      simp only [NodeCheck.filterIfAny] at named
      simp only [Operation.validateClause] at valid
      simp only [Filter.slotsIfAny] at unbound
      rw [Filter.sketchAfter, Filter.signsIfAny]
      exact (Filter.sketch_signed accepted condition named valid unbound).after_words accepted
        neutral

theorem Target.sketch_signed (accepted : settings.dialect.IsAccepted) :
    (target : Target) → wellNamed.target target → Validation.target target = .ok () →
      target.slots = 0 → target.sketch.Signed settings target.signs
  | .mk name entity given joined, named, valid, unbound => by
      simp only [NodeCheck.target] at named
      simp only [Target.slots] at unbound
      have joins :=
        Join.sketches_signed accepted joined named.2 (Validation.of_target valid).2 unbound
      have declares : (Sketch.declaration (.mk name entity given joined)).Signed settings [] :=
        .declaration accepted named.1
      rw [Target.sketch, Target.signs]
      exact declares.append joins (Join.sketches_detached joined)

theorem Join.sketches_signed (accepted : settings.dialect.IsAccepted) :
    (joined : List Join) → wellNamed.joins joined → Validation.joins joined = .ok () →
      Join.totalSlots joined = 0 →
      (Join.sketches joined).Signed settings (Join.allSigns joined)
  | [], _, _, _ => by
      rw [Join.sketches, Join.allSigns]
      exact .words accepted (by decide)
  | first :: rest, named, valid, unbound => by
      simp only [NodeCheck.joins] at named
      simp only [Join.totalSlots, Nat.add_eq_zero_iff] at unbound
      obtain ⟨validFirst, validRest⟩ := Validation.of_joins valid
      rw [Join.sketches, Join.allSigns]
      exact (Join.sketch_signed accepted first named.1 validFirst unbound.1).append
        (Join.sketches_signed accepted rest named.2 validRest unbound.2)
        (Join.sketches_detached rest)

theorem Join.sketch_signed (accepted : settings.dialect.IsAccepted) :
    (join : Join) → wellNamed.join join → Validation.join join = .ok () → join.slots = 0 →
      join.sketch.Signed settings join.signs
  | .mk joinType (.mk name entity given joined) condition, named, valid, unbound => by
      simp only [NodeCheck.join, NodeCheck.target] at named
      simp only [Join.slots, Target.slots, Nat.add_eq_zero_iff] at unbound
      have validJoins := (Validation.of_target (Validation.target_of_join valid)).2
      have keyword : (" " ++ joinType.keyword ++ " ").toList.all isNeutral = true := by
        cases joinType <;> decide
      have conditions := Filter.sketchAfter_signed accepted " ON " (by decide) condition named.2
        (Validation.condition_of_join valid) unbound.1
      have inner := conditions.append
        (Join.sketches_signed accepted joined named.1.2 validJoins unbound.2)
        (Join.sketches_detached joined)
      have declares : (Sketch.declaration (.mk name entity given joined)).Signed settings [] :=
        .declaration accepted named.1.1
      rw [Join.sketch, Join.signs, Target.joinSketch, Target.signs]
      exact (declares.append inner
        (.append (Filter.sketchAfter_detached (by decide) (by decide) condition)
          (Join.sketches_detached joined))).after_words accepted keyword

theorem SortKey.sketches_signed (accepted : settings.dialect.IsAccepted) :
    (keys : List SortKey) → wellNamed.sortKeys keys → Validation.sortKeys keys = .ok () →
      SortKey.totalSlots keys = 0 →
      SignedEach settings (SortKey.sketches keys) (SortKey.allSigns keys)
  | [], _, _, _ => by
      rw [SortKey.sketches, SortKey.allSigns]
      exact .nil
  | .mk key direction :: rest, named, valid, unbound => by
      simp only [NodeCheck.sortKeys, NodeCheck.sortKey] at named
      simp only [Validation.sortKeys, Validation.sortKey, Validation.andThen_ok_iff] at valid
      simp only [SortKey.totalSlots, SortKey.slots, Nat.add_eq_zero_iff] at unbound
      have keyword : Apart (" " ++ direction.keyword) ∧
          (" " ++ direction.keyword).toList.all isNeutral = true := by
        cases direction <;> decide
      rw [SortKey.sketches, SortKey.allSigns, SortKey.sketch, SortKey.signs]
      exact .cons
        ((Expression.sketch_signed accepted key named.1 valid.1.2 unbound.1).before_words accepted
          keyword.1 keyword.2)
        (SortKey.sketches_signed accepted rest named.2 valid.2 unbound.2)

theorem Expression.keys_signed (accepted : settings.dialect.IsAccepted) :
    (keys : List Expression) → wellNamed.expressions keys → Validation.groupKeys keys = .ok () →
      Expression.totalSlots keys = 0 →
      SignedEach settings (Expression.sketches keys) (Expression.allSigns keys)
  | [], _, _, _ => by
      rw [Expression.sketches, Expression.allSigns]
      exact .nil
  | key :: rest, named, valid, unbound => by
      simp only [NodeCheck.expressions] at named
      simp only [Validation.groupKeys, Validation.andThen_ok_iff] at valid
      simp only [Expression.totalSlots, Nat.add_eq_zero_iff] at unbound
      rw [Expression.sketches, Expression.allSigns]
      exact .cons (Expression.sketch_signed accepted key named.1 valid.2.1 unbound.1)
        (Expression.keys_signed accepted rest named.2 valid.2.2 unbound.2)

theorem Aggregation.sketch_signed (accepted : settings.dialect.IsAccepted) :
    (grouping : Aggregation) → wellNamed.aggregation grouping →
      Validation.aggregation grouping = .ok () → grouping.slots = 0 →
      grouping.sketch.Signed settings grouping.signs
  | .mk keys having, named, valid, unbound => by
      simp only [NodeCheck.aggregation] at named
      simp only [Aggregation.slots, Nat.add_eq_zero_iff] at unbound
      obtain ⟨validKeys, validHaving⟩ := Validation.of_aggregation valid
      have each := Expression.keys_signed accepted keys named.1 validKeys unbound.1
      rw [Aggregation.sketch, Aggregation.signs]
      exact ((each.separated accepted (by decide) (by decide) (by decide)).after_words accepted
        (by decide)).append
          (Filter.sketchAfter_signed accepted " HAVING " (by decide) having named.2 validHaving
            unbound.2)
          (Filter.sketchAfter_detached (by decide) (by decide) having)

theorem Projection.sketch_signed (accepted : settings.dialect.IsAccepted) :
    (selected : Projection) → wellNamed.projection selected →
      Validation.projection selected = .ok () → selected.slots = 0 →
      selected.sketch.Signed settings selected.signs
  | .path found, named, valid, _ => by
      simp only [NodeCheck.projection] at named
      rw [Projection.sketch, Projection.signs]
      have column : (Sketch.mention (.property found)).Signed settings [] := by
        refine .mention accepted ?_
        rintro path ⟨⟩
        exact named.2
      exact column.named accepted (Validation.isIdentifier_of_path valid)
  | .function call, named, valid, unbound => by
      simp only [NodeCheck.projection] at named
      simp only [Validation.projection] at valid
      simp only [Projection.slots] at unbound
      rw [Projection.sketch, Projection.signs]
      exact FunctionCall.sketch_signed accepted call named.2 valid unbound
  | .constant value, named, _, _ => by
      simp only [NodeCheck.projection] at named
      rw [Projection.sketch, Projection.signs]
      refine .literal accepted ?_
      rintro digits rfl
      exact named digits rfl
  | .target name, _, _, _ => by
      rw [Projection.sketch, Projection.signs]
      exact .mention accepted nofun
  | .properties items, named, valid, unbound => by
      simp only [NodeCheck.projection] at named
      simp only [Validation.projection, Validation.andThen_ok_iff] at valid
      simp only [Projection.slots] at unbound
      rw [Projection.sketch, Projection.signs]
      exact (NamedProperty.sketches_signed accepted [] items named.2 valid.2 unbound).separated
        accepted (by decide) (by decide) (by decide)
  | .selectAll, _, _, _ => by
      rw [Projection.sketch, Projection.signs]
      exact .mention accepted nofun
  | .countAll, _, _, _ => by
      rw [Projection.sketch, Projection.signs]
      have rows : (Sketch.mention .rows).Signed settings [] := .mention accepted nofun
      exact rows.call accepted rfl false

theorem NamedProperty.sketches_signed
    (accepted : settings.dialect.IsAccepted)
    (earlier : List String) :
    (items : List NamedProperty) → wellNamed.properties items →
      Validation.projectionItems earlier items = .ok () → NamedProperty.totalSlots items = 0 →
      SignedEach settings (NamedProperty.sketches items) (NamedProperty.allSigns items)
  | [], _, _, _ => by
      rw [NamedProperty.sketches, NamedProperty.allSigns]
      exact .nil
  | .mk name item :: rest, named, valid, unbound => by
      simp only [NodeCheck.properties, NodeCheck.property] at named
      simp only [Validation.projectionItems, Validation.andThen_ok_iff,
        Validation.require_ok_iff] at valid
      obtain ⟨identifier, -, -, validItem, validRest⟩ := valid
      simp only [NamedProperty.totalSlots, NamedProperty.slots, Nat.add_eq_zero_iff] at unbound
      have items := Expression.sketch_signed accepted item named.1 validItem unbound.1
      rw [NamedProperty.sketches, NamedProperty.allSigns, NamedProperty.sketch,
        NamedProperty.signs]
      refine .cons (items.named accepted ?_)
        (NamedProperty.sketches_signed accepted (name :: earlier) rest named.2 validRest unbound.2)
      rintro _ ⟨⟩
      exact identifier

theorem SubQuery.sketch_signed (accepted : settings.dialect.IsAccepted) :
    (query : SubQuery) → wellNamed.subQuery query → Validation.subQuery query = .ok () →
      query.slots = 0 → query.sketch.Signed settings query.signs
  | .mk queried condition selected correlations, named, valid, unbound => by
      simp only [NodeCheck.subQuery] at named
      simp only [SubQuery.slots, Nat.add_eq_zero_iff] at unbound
      obtain ⟨validTarget, validCondition, validSelected⟩ := Validation.of_subQuery valid
      rw [SubQuery.sketch, SubQuery.signs]
      exact (Signed.select accepted false
        (Target.sketch_signed accepted queried named.1 validTarget unbound.1.1)
        (Filter.sketchAfter_signed accepted " WHERE " (by decide) condition named.2.1
          validCondition unbound.1.2)
        (Filter.sketchAfter_detached (by decide) (by decide) condition)
        (Projection.sketch_signed accepted selected named.2.2 validSelected unbound.2)).nested

end

end ObjectQuery
