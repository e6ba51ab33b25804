import ObjectQuery.Evaluation.Rebinding
import ObjectQuery.Proofs.Rebinding.Lowered
import ObjectQuery.Proofs.Sketch.Nodes
import ObjectQuery.Proofs.Sketch.Parameters

/-!
# What takes bound values back

A step consumes values if it takes exactly these from the front of those that are left,
whatever follows them. Operands and filters consume the values that a run over their sketch
binds, whichever type is expected of them.
-/

namespace ObjectQuery

namespace Rebinding

variable {first second : Type}

/-- A step that takes exactly these values from the front, whatever follows them. -/
def Consumes (step : Rebinding first) (values : List Value) (result : first) : Prop :=
  ∀ left, step (values ++ left) = .ok (result, left)

namespace Consumes

theorem pure (result : first) : (Pure.pure result : Rebinding first).Consumes [] result :=
  fun _ => rfl

theorem bind
    {step : Rebinding first}
    {next : first → Rebinding second}
    {values values' : List Value}
    {result : first}
    {result' : second}
    (steps : step.Consumes values result)
    (nexts : (next result).Consumes values' result') :
    (step >>= next).Consumes (values ++ values') result' := by
  intro left
  rw [List.append_assoc]
  change (step (values ++ (values' ++ left)) >>= fun found => next found.1 found.2) = _
  rw [steps]
  exact nexts left

/-- The last step takes nothing. -/
theorem map
    {step : Rebinding first}
    {values : List Value}
    {result : first}
    (steps : step.Consumes values result)
    (convert : first → second) :
    (do let found ← step; return convert found : Rebinding second).Consumes values
      (convert result) := by
  rw [← List.append_nil values]
  exact Consumes.bind steps (.pure (convert result))

theorem next (total : Nat) (value : Value) : (next total).Consumes [value] value :=
  fun _ => rfl

end Consumes

theorem items_consumes
    (total : Nat)
    {values : List Value}
    (noNull : values.any Value.isNull = false) :
    (items total values).Consumes values values := by
  induction values with
  | nil => exact .pure []
  | cons first rest inductionHypothesis =>
      simp only [List.any_cons, Bool.or_eq_false_iff] at noNull
      simp only [items, noNull.1]
      refine Consumes.bind (.next total first) ?_
      exact (inductionHypothesis noNull.2).map (first :: ·)

end Rebinding

/-- The values that a run over a sketch binds, in order. -/
def Sketch.values (dialect : Dialect) (hint : Option ValueType) (sketch : Sketch) : List Value :=
  (sketch.parameters dialect hint).map Parameter.value

namespace Sketch

variable (dialect : Dialect) (hint : Option ValueType)

@[simp] theorem values_words (text : String) : (words text).values dialect hint = [] := rfl

@[simp] theorem values_append (first second : Sketch) :
    (first.append second).values dialect hint =
      first.values dialect hint ++ second.values dialect hint := by
  simp [values, parameters]

@[simp] theorem values_expecting (valueType : ValueType) (inner : Sketch) :
    (expecting valueType inner).values dialect hint = inner.values dialect (some valueType) := rfl

@[simp] theorem values_enclosing (operand : Expression) (inner : Sketch) :
    (enclosing operand inner).values dialect hint = inner.values dialect hint := by
  unfold enclosing
  split
  · simp [between]
  · rfl

@[simp] theorem values_subject (ignoreCase : Bool) (inner : Sketch) :
    (subject ignoreCase inner).values dialect hint = inner.values dialect hint := by
  cases ignoreCase <;> rfl

@[simp] theorem values_between (opening closing : String) (inner : Sketch) :
    (between opening inner closing).values dialect hint = inner.values dialect hint := by
  simp [between]

theorem values_separated (separator : String) (sketches : List Sketch) :
    (separated separator sketches).values dialect hint =
      sketches.flatMap (values dialect hint) := by
  induction sketches with
  | nil => rfl
  | cons first rest inductionHypothesis =>
      cases rest with
      | nil => simp [separated]
      | cons second others => simp [separated, inductionHypothesis]

theorem values_junction (word : String) (conditions : List Sketch) :
    (junction word conditions).values dialect hint =
      conditions.flatMap (values dialect hint) := by
  simp [junction, values_separated, List.flatMap_map]

end Sketch

namespace Rebinding

variable {dialect : Dialect}

/-! ## Operands -/

/-- A constant that is no list is bound, unless it is null. -/
theorem constant_consumes
    (total : Nat)
    (hint : Option ValueType)
    {value : Value}
    (noList : value.isList = false) :
    (operand total (.constant value)).Consumes
      ((Expression.constant value).sketch.values dialect hint) (.constant value) := by
  cases value with
  | null =>
      simp only [operand]
      exact .pure _
  | list items => simp [Value.isList] at noList
  | _ =>
      simp only [operand]
      exact Consumes.map (.next total _) _

mutual

/-- An operand takes back the values that are bound for it. -/
theorem operand_consumes (total : Nat) (hint : Option ValueType) :
    (node : Expression) → Validation.expression node = .ok () → node.isOperand = true →
      node.IsSimple → (operand total node).Consumes (node.sketch.values dialect hint) node
  | .path found, _, _, _ => by
      simp only [operand]
      exact .pure _
  | .constant value, _, _, simple => constant_consumes total hint simple
  | .function call, valid, _, simple => by
      simp only [Validation.expression] at valid
      simp only [operand, Expression.sketch]
      exact (function_consumes total hint call valid simple).map _

theorem function_consumes (total : Nat) (hint : Option ValueType) :
    (call : FunctionCall) → Validation.function call = .ok () → call.IsSimple →
      (function total call).Consumes (call.sketch.values dialect hint) call
  | .mk kind [] distinct, _, _ => by
      simp only [function, operands, FunctionCall.sketch, Expression.sketches]
      exact .pure _
  | .mk kind [argument] distinct, valid, simple => by
      simp only [Validation.function, Validation.functionArguments, Validation.andThen_ok_iff,
        Validation.require_ok_iff] at valid
      simp only [function, operands, FunctionCall.sketch, Expression.sketches]
      have taken : (operand total argument).Consumes (argument.sketch.values dialect hint)
          argument := operand_consumes total hint argument valid.2.2.2.1 valid.2.2.1 simple.1
      exact (taken.map (fun found => [found])).map (FunctionCall.mk kind · distinct)
  | .mk kind (_ :: _ :: _) distinct, valid, _ => by
      simpa using Validation.length_le_one_of_function valid

end

/-- The right side of a membership takes back the values that are bound for it. -/
theorem member_consumes
    (total : Nat)
    (hint : Option ValueType)
    {node : Expression}
    (role : Validation.memberRole node = .ok ())
    (valid : Validation.expression node = .ok ())
    (simple : node.IsSimpleMember) :
    (operand total node).Consumes (node.sketch.values dialect hint) node := by
  cases node with
  | constant value =>
      cases value with
      | list items =>
          simp only [Validation.memberRole, Validation.memberList, Validation.andThen_ok_iff,
            Validation.require_ok_iff, Bool.not_eq_true'] at role
          have bound : (Expression.constant (.list items)).sketch.values dialect hint = items := by
            simp [Expression.sketch, Sketch.values, Sketch.parameters, Filling.parameters,
              Value.parameters, Parameter.of, Function.comp_def]
          simp only [operand, bound]
          exact (items_consumes total role.2).map _
      | _ => exact constant_consumes total hint rfl
  | path found => exact operand_consumes total hint _ valid rfl simple
  | function call => exact operand_consumes total hint _ valid rfl simple
  | subQuery query => exact simple.elim
  | custom node => exact simple.elim
  | _ => simp [Validation.memberRole, Validation.operandRole, Expression.isOperand] at role

/-! ## Filters -/

/-- An operand in its role takes back the values that are bound for it. -/
theorem role_consumes
    (total : Nat)
    (hint : Option ValueType)
    {role : String}
    {node : Expression}
    (isOperand : Validation.operandRole role node = .ok ())
    (valid : Validation.expression node = .ok ())
    (simple : node.IsSimple) :
    (operand total node).Consumes (node.sketch.values dialect hint) node := by
  simp only [Validation.operandRole, Validation.andThen_ok_iff, Validation.require_ok_iff]
    at isOperand
  exact operand_consumes total hint node valid isOperand.1 simple

theorem unwrapped_consumes
    (mark : Text.isPunctuation dialect.escapeCharacter = true)
    (text : String)
    (mode : MatchMode)
    (ignoreCase : Bool) :
    (unwrapped mode dialect.escapeCharacter
        (.string (BuiltIn.matchPattern dialect text mode ignoreCase))).Consumes []
      (if ignoreCase then Text.lowercase text else text) := by
  simp only [unwrapped, BuiltIn.unwrap?_matchPattern mark]
  exact .pure _

mutual

/-- A filter takes back the values that are bound for it. -/
theorem filter_consumes
    (mark : Text.isPunctuation dialect.escapeCharacter = true)
    (total : Nat)
    (hint : Option ValueType) :
    (condition : Filter) → Validation.filter condition = .ok () → condition.IsSimple →
      (filter total dialect.escapeCharacter condition).Consumes
        (condition.sketch.values dialect hint) condition.lowered
  | .isNull tested, valid, simple | .isNotNull tested, valid, simple => by
      simp only [Validation.filter, Validation.andThen_ok_iff, Validation.require_ok_iff] at valid
      simp only [filter, Filter.sketch, Sketch.values_append, Sketch.values_enclosing,
        Sketch.values_words, List.append_nil]
      exact (operand_consumes total hint tested valid.2 valid.1 simple).map _
  | .compare left operator right, valid, simple => by
      simp only [Validation.filter, Validation.andThen_ok_iff] at valid
      obtain ⟨roleLeft, validLeft, roleRight, validRight, -⟩ := valid
      simp only [filter, Filter.sketch, Sketch.values_append, Sketch.values_enclosing,
        Sketch.values_words, Sketch.values_expecting, List.nil_append]
      exact Consumes.bind (role_consumes total hint roleLeft validLeft simple.1)
        ((role_consumes total _ roleRight validRight simple.2).map _)
  | .between tested lower upper, valid, simple => by
      simp only [Validation.filter, Validation.andThen_ok_iff] at valid
      obtain ⟨role, validTested, roleLower, validLower, roleUpper, validUpper⟩ := valid
      simp only [filter, Filter.sketch, Sketch.values_append, Sketch.values_enclosing,
        Sketch.values_words, Sketch.values_expecting, List.nil_append]
      exact Consumes.bind (role_consumes total hint role validTested simple.1)
        (Consumes.bind (role_consumes total _ roleLower validLower simple.2.1)
          ((role_consumes total _ roleUpper validUpper simple.2.2).map _))
  | .isIn left right, valid, simple | .isNotIn left right, valid, simple => by
      simp only [Validation.filter, Validation.andThen_ok_iff] at valid
      obtain ⟨roleLeft, validLeft, roleRight, validRight⟩ := valid
      simp only [filter, Filter.sketch, Sketch.values_append, Sketch.values_enclosing,
        Sketch.values_between, Sketch.values_expecting]
      exact Consumes.bind (role_consumes total hint roleLeft validLeft simple.1)
        ((member_consumes total _ roleRight validRight simple.2).map _)
  | .stringMatch left value mode ignoreCase, valid, simple => by
      simp only [Validation.filter, Validation.andThen_ok_iff] at valid
      obtain ⟨roleLeft, validLeft, matched⟩ := valid
      obtain ⟨text, rfl⟩ : ∃ text, value = .constant (.string text) := by
        unfold Validation.matchedValue at matched
        split at matched
        · exact ⟨_, rfl⟩
        · simp [Validation.fail] at matched
        · simp [Validation.fail] at matched
      simp only [filter, Filter.sketch, Sketch.values_append, Sketch.values_enclosing,
        Sketch.values_subject, Sketch.values_words, List.nil_append]
      have lowered : (Filter.stringMatch left (.constant (.string text)) mode ignoreCase).lowered =
          .stringMatch left
            (.constant (.string (if ignoreCase then Text.lowercase text else text))) mode
            ignoreCase := by
        cases ignoreCase <;> rfl
      have bound : (Expression.pattern (.constant (.string text)) mode ignoreCase).values dialect
          hint = [.string (BuiltIn.matchPattern dialect text mode ignoreCase)] := rfl
      rw [lowered, bound]
      exact Consumes.bind (role_consumes total hint roleLeft validLeft simple)
        (Consumes.bind (.next total _)
          ((unwrapped_consumes mark text mode ignoreCase).map fun text =>
            Filter.stringMatch left (.constant (.string text)) mode ignoreCase))
  | .and conditions, valid, simple => by
      simp only [Validation.filter] at valid
      simp only [filter, Filter.sketch, Sketch.values_junction, Filter.lowered]
      exact (filters_consumes mark total hint conditions valid simple).map Filter.and
  | .or conditions, valid, simple => by
      simp only [Validation.filter] at valid
      simp only [filter, Filter.sketch, Sketch.values_junction, Filter.lowered]
      exact (filters_consumes mark total hint conditions valid simple).map Filter.or
  | .not condition, valid, simple => by
      simp only [Validation.filter] at valid
      simp only [filter, Filter.sketch, Sketch.values_between, Filter.lowered]
      exact (filter_consumes mark total hint condition valid simple).map Filter.not
  | .hasRows _, _, simple | .hasNoRows _, _, simple => simple.elim

theorem filters_consumes
    (mark : Text.isPunctuation dialect.escapeCharacter = true)
    (total : Nat)
    (hint : Option ValueType) :
    (conditions : List Filter) → Validation.filters conditions = .ok () →
      Filter.AreSimple conditions →
        (filters total dialect.escapeCharacter conditions).Consumes
          ((Filter.sketches conditions).flatMap (Sketch.values dialect hint))
          (Filter.allLowered conditions)
  | [], _, _ => by
      simp only [filters, Filter.sketches, Filter.allLowered]
      exact .pure _
  | first :: rest, valid, simple => by
      simp only [Validation.filters, Validation.andThen_ok_iff] at valid
      simp only [filters, Filter.sketches, Filter.allLowered, List.flatMap_cons]
      exact Consumes.bind (filter_consumes mark total hint first valid.1 simple.1)
        ((filters_consumes mark total hint rest valid.2 simple.2).map _)

end

end Rebinding

end ObjectQuery
